import NestedQuery.Proofs.Agreement
import NestedQuery.Proofs.Shapes

set_option autoImplicit false

namespace NestedQuery

def Relation.rowLimit (relation : Relation) (filter : Filter) : Nat :=
  match relation.multiplicity with
  | .many => 1
  | .one => (filter.limit.getD 1).toNat

namespace Sql

/-- What keeps the rows of a statement few: its limit, or an aggregate that makes one row of all. As
a window function the aggregate stands in every row, and all but one are cut off. -/
inductive Select.KeepsTo (adapter : Adapter) : Nat → Select → Prop
  | limit {columns : List (String × Column)} {relations : List (String × Select)} {rows : Rows}
      {page : Page} (paged : rows.page = some page) :
      KeepsTo adapter page.limit.toNat ⟨false, columns, relations, .direct rows⟩
  | aggregate {columns : List (String × Column)} {relations : List (String × Select)}
      {source : Source} (plain : source.rows.order = [] ∨ adapter.windowed = false) :
      KeepsTo adapter 1 ⟨true, columns, relations, source⟩
  | window {columns : List (String × Column)} {relations : List (String × Select)} {rows : Rows} :
      KeepsTo adapter 1 ⟨true, columns, relations, .derived rows true⟩

theorem length_arrayRows {dialect : Dialect} {ordered : Bool}
    (plain : ordered = false ∨ (Adapter.ofDialect dialect).windowed = false) (objects : List Json) :
    (arrayRows dialect ordered objects).length = 1 := by
  cases dialect with
  | sqlite | postgresql => rfl
  | mysql =>
    obtain rfl | direct := plain
    · rfl
    · cases direct

theorem Source.length_cut_le {α : Type} (source : Source) (plural : Bool) (values : List α) :
    (source.cut plural values).length ≤ values.length := by
  cases source with
  | direct rows =>
    cases plural with
    | true => exact (Page.cut_sublist _ _).length_le
    | false => exact Nat.le_refl _
  | derived rows cutToOne =>
    cases cutToOne with
    | true => exact List.length_take_le' _ _
    | false => exact Nat.le_refl _

theorem evaluate_eq_some {db : Database} {dialect : Dialect} {plural : Bool}
    {columns : List (String × Column)} {relations : List (String × Select)} {source : Source}
    {outer : Scope} {values : List Json}
    (evaluated : Select.evaluate db dialect ⟨plural, columns, relations, source⟩ outer =
      some values) :
    ∃ objects : List Json, objects.length = (source.arriving db plural outer).length ∧
      values = source.cut plural
        (if plural then arrayRows dialect (!source.rows.order.isEmpty) objects else objects) := by
  simp only [Select.evaluate, Option.ite_none_right_eq_some, Option.map_eq_some_iff] at evaluated
  obtain ⟨-, objects, read, rfl⟩ := evaluated
  refine ⟨objects, ?_, rfl⟩
  rw [(mapM_values read).1]
  split
  · exact List.length_mergeSort _
  · rfl

theorem length_evaluate_le {db : Database} {dialect : Dialect} {limit : Nat} {select : Select}
    (keeps : select.KeepsTo (.ofDialect dialect) limit) {outer : Scope} {values : List Json}
    (evaluated : select.evaluate db dialect outer = some values) : values.length ≤ limit := by
  cases keeps with
  | @limit columns relations rows page paged =>
    obtain ⟨objects, length, rfl⟩ := evaluate_eq_some evaluated
    have few : (rows.cut db outer).length ≤ page.limit.toNat := by
      rw [Rows.cut, paged]
      exact List.length_take_le _ _
    exact length ▸ few
  | aggregate plain =>
    obtain ⟨objects, -, rfl⟩ := evaluate_eq_some evaluated
    refine Nat.le_trans (Source.length_cut_le _ _ _) (Nat.le_of_eq ?_)
    exact length_arrayRows (plain.imp_left fun unordered => by rw [unordered]; rfl) objects
  | window =>
    obtain ⟨objects, -, rfl⟩ := evaluate_eq_some evaluated
    exact List.length_take_le 1 _

end Sql

namespace Compile

open Sql

variable {schema : Schema} {entity : String} {relation : Relation} {parent last : Alias}

theorem Planned.keepsTo {adapter : Adapter} {place : Level} {filter : Filter} {select : Select}
    {next : Alias} (placed : levelOf schema entity parent last relation = .ok place)
    (planned : Planned schema adapter relation.target place filter select next) :
    select.KeepsTo adapter (relation.rowLimit filter) := by
  have plural := levelOf_plural placed
  have implicit := levelOf_implicitLimit placed
  cases planned with
  | @level _ _ _ table names _ _ _ predicate named listed included supported resolved =>
    unfold Relation.rowLimit
    cases kind : relation.multiplicity with
    | one =>
      have paged : (rowsOf schema relation.target filter place table predicate).page =
          some ⟨filter.limit.getD 1, filter.skip⟩ := by
        cases asked : filter.limit <;>
          simp [rowsOf, pageOf, asked, implicit, Relation.implicitLimit, kind]
      have object : place.plural = false := by rw [plural, kind]; rfl
      rw [object]
      exact .limit paged
    | many =>
      have array : place.plural = true := by rw [plural, kind]; rfl
      rw [array]
      cases unordered : (rowsOf schema relation.target filter place table predicate).order with
      | nil => exact .aggregate (.inl (by rw [rows_sourceOf, unordered]))
      | cons first rest =>
        cases windowed : adapter.windowed with
        | false => exact .aggregate (.inr windowed)
        | true =>
          have cut : sourceOf adapter true
                (rowsOf schema relation.target filter place table predicate) =
              .derived (rowsOf schema relation.target filter place table predicate) true := by
            simp [sourceOf, unordered, windowed]
          rw [cut]
          exact .window

theorem rowLimit_le_one_iff {filter : Filter} :
    relation.rowLimit filter ≤ 1 ↔
      (relation.multiplicity = .one → ∀ limit ∈ filter.limit, limit ≤ 1) := by
  unfold Relation.rowLimit
  cases relation.multiplicity with
  | many => simp
  | one =>
    cases filter.limit with
    | none => simp
    | some limit => simp [UInt64.le_iff_toNat_le]

theorem single_of_keepsTo {db : Database} {dialect : Dialect} {filter : Filter} {select : Select}
    (keeps : select.KeepsTo (.ofDialect dialect) (relation.rowLimit filter))
    (asked : dialect = .sqlite ∨ (relation.multiplicity = .one → ∀ limit ∈ filter.limit, limit ≤ 1))
    {outer : Scope} (evaluates : (select.evaluate db dialect outer).isSome) :
    ∃ values, select.evaluate db dialect outer = some values ∧ (single dialect values).isSome := by
  obtain ⟨values, evaluated⟩ := Option.isSome_iff_exists.1 evaluates
  refine ⟨values, evaluated, single_isSome (asked.imp_right fun asked => ?_)⟩
  exact Nat.le_trans (length_evaluate_le keeps evaluated) (rowLimit_le_one_iff.2 asked)

mutual

theorem planned_evaluates (db : Database) {dialect : Dialect} {entity : String} {place : Level}
    {filter : Filter} {select : Select} {last : Alias}
    (planned : Planned schema (.ofDialect dialect) entity place filter select last) :
    (dialect = .sqlite ∨ filter.AsksForOne schema entity) → ∀ outer candidates,
      Leads db place (schema.tableOf entity) outer candidates → place.Fits (outer.map Prod.fst) →
        (select.evaluate db dialect outer).isSome := by
  cases planned with
  | @level _ _ _ table names relations _ _ predicate named listed included supported resolved =>
    intro asks outer candidates leads fits
    rw [Schema.tableOf_eq named] at leads
    obtain ⟨chosen, h, arriving, -⟩ := arriving_chosen db (.ofDialect dialect) resolved leads
    have asks' : dialect = .sqlite ∨ IncludesAskForOne schema entity filter.includes := by
      cases filter
      rwa [Filter.AsksForOne] at asks
    have each : ∀ scope ∈ chosen.map Prod.fst,
        (evaluateRelations db dialect relations scope).isSome := by
      intro scope mem
      obtain ⟨row, there, rfl⟩ := List.mem_map.1 mem
      exact plannedIncludes_evaluate db included asks' (Nat.le_refl _) row.1 row.2
        (h.shown row there)
    rw [Select.evaluate, if_pos (isWellFormed_sourceOf resolved fits), Option.isSome_map, arriving]
    refine Option.isSome_iff_exists.2 ((mapM_some fun scope mem => ?_).imp fun _ => And.left)
    rw [Option.isSome_map]
    refine each scope ?_
    split at mem
    · exact List.mem_mergeSort.1 mem
    · exact mem

theorem plannedIncludes_evaluate (db : Database) {dialect : Dialect} {entity : String}
    {parent last final : Alias} {includes : List (Include Filter)}
    {selects : List (String × Select)}
    (planned : PlannedIncludes schema (.ofDialect dialect) entity parent last includes selects
      final) :
    (dialect = .sqlite ∨ IncludesAskForOne schema entity includes) →
      parent.index ≤ last.index → ∀ outer record, Shows outer parent record →
        (evaluateRelations db dialect selects outer).isSome := by
  cases planned with
  | nil =>
    intro _ _ outer _ _
    rw [evaluateRelations]
    rfl
  | @cons _ name _ _ next _ scope rest relation place select selects related placed planned
      others =>
    intro asks bound outer record shown
    have permitted : dialect = .sqlite ∨
        ((relation.multiplicity = .one → ∀ limit ∈ (scope.getD {}).limit, limit ≤ 1) ∧
          (scope.getD {}).AsksForOne schema relation.target ∧
            IncludesAskForOne schema entity rest) :=
      asks.imp_right (includesAskForOne_cons related)
    obtain ⟨values, evaluated, single⟩ := single_of_keepsTo (planned.keepsTo placed)
      (permitted.imp_right fun asks => asks.1)
      (planned_evaluates db planned (permitted.imp_right fun asks => asks.2.1) outer _
        (levelOf_leads db placed bound shown) (levelOf_fits placed shown.mem))
    obtain ⟨value, taken⟩ := Option.isSome_iff_exists.1 single
    have above := (levelOf_numbered placed).2
    obtain ⟨-, -, -, below⟩ := planned_numbered planned
    have behind := plannedIncludes_evaluate db others
      (permitted.imp_right fun asks => asks.2.2) (by omega) outer record shown
    rw [evaluateRelations, evaluated, Option.bind_some, taken, Option.bind_some, Option.isSome_map]
    exact behind

end

end Compile

/-- At every level of a statement, the value of a relation is a subquery of at most one row: of one
aggregate, if the relation leads to many entities, and of a limit, if it leads to one. Only a filter
that asks for more than one entity raises that limit, and without such filters every subquery has
its value. -/
theorem compile_subqueries {schema : Schema} {dialect : Dialect} {entity : String}
    {filter : Filter} {options : Options} {text : String}
    (compiled : compile schema (.ofDialect dialect) entity filter options = .ok text) :
    ∃ select aggregates,
      statement schema (.ofDialect dialect) entity filter options = .ok select ∧
      (Adapter.ofDialect dialect).aggregates = some aggregates ∧
      text = select.write (.ofDialect dialect) aggregates ∧
      ∀ (owner : String) (scope : Filter) (level : Sql.Select),
        select.HasLevel schema entity filter owner scope level →
        ∀ (i : Nat) (included : Include Filter) (relation : Relation),
          scope.includes[i]? = some included →
          schema.relation owner included.relation = .ok relation →
          let asked := included.scope.getD {}
          ∃ below, level.relations[i]? = some (included.relation, below) ∧
            (included.relation,
              (Adapter.ofDialect dialect).embed (below.write (.ofDialect dialect) aggregates)) ∈
                level.fields (.ofDialect dialect) aggregates ∧
            below.KeepsTo (.ofDialect dialect) (relation.rowLimit asked) ∧
            (relation.rowLimit asked ≤ 1 ↔
              (relation.multiplicity = .one → ∀ limit ∈ asked.limit, limit ≤ 1)) ∧
            ∀ (db : Database) (outer : Sql.Scope),
              (∀ values, below.evaluate db dialect outer = some values →
                values.length ≤ relation.rowLimit asked) ∧
              (dialect = .sqlite ∨ asked.AsksForOne schema relation.target →
                ∀ record, Shows outer level.source.rows.tableAlias record →
                  (below.evaluate db dialect outer).isSome) := by
  obtain ⟨select, last, aggregates, supported, planned, rfl⟩ := compile_eq_ok.1 compiled
  refine ⟨select, aggregates, ?_, supported, rfl,
    fun owner scope level there i included relation listed related => ?_⟩
  · rw [statement, Compile.planned_iff.1 planned]
    rfl
  · obtain ⟨place, last, planned⟩ := planned.at_select there
    cases planned with
    | level named fields includes supported resolved =>
      obtain ⟨relation', before, place', below, next, later, related', placed, own, embedded⟩ :=
        includes.get listed
      cases related.symm.trans related'
      have keeps := own.keepsTo placed
      refine ⟨below, embedded, ?_, keeps, Compile.rowLimit_le_one_iff, fun db outer => ⟨?_, ?_⟩⟩
      · exact List.mem_append_right _ (List.mem_map.2 ⟨_, List.mem_of_getElem? embedded, rfl⟩)
      · exact fun values evaluated => Sql.length_evaluate_le keeps evaluated
      · intro asks record shown
        rw [Compile.rows_sourceOf] at shown
        exact Compile.planned_evaluates db own asks outer _
          (Compile.levelOf_leads db placed later shown) (Compile.levelOf_fits placed shown.mem)

theorem compile_subqueries_blog :
    ∃ (select author comments : Sql.Select),
      statement Sample.blog (.ofDialect .mysql) "Post" Sample.posts {} = .ok select ∧
      select.relations[0]? = some ("author", author) ∧
      select.relations[1]? = some ("comments", comments) ∧
      author.KeepsTo (.ofDialect .mysql) 1 ∧
      comments.KeepsTo (.ofDialect .mysql) 1 ∧
      ∀ (db : Database) (record : Record),
        (∃ values, author.evaluate db .mysql [(.first, record)] = some values ∧
          values.length ≤ 1) ∧
        ∃ values, comments.evaluate db .mysql [(.first, record)] = some values ∧
          values.length ≤ 1 := by
  obtain ⟨text, compiled⟩ : ∃ text,
      compile Sample.blog (.ofDialect .mysql) "Post" Sample.posts {} = .ok text := ⟨_, rfl⟩
  obtain ⟨select, aggregates, stated, -, -, levels⟩ := compile_subqueries compiled
  have root := levels "Post" Sample.posts select .root
  obtain ⟨author, first, -, one, -, authors⟩ := root 0 _ _ rfl rfl
  obtain ⟨comments, second, -, many, -, texts⟩ := root 1 _ _ rfl rfl
  have tableAlias : select.source.rows.tableAlias = .first := by
    cases stated
    rfl
  rw [tableAlias] at authors texts
  refine ⟨select, author, comments, stated, first, second, one, many, fun db record => ?_⟩
  have bounded {below : Sql.Select} (short : ∀ values,
        below.evaluate db .mysql [(.first, record)] = some values → values.length ≤ 1)
      (evaluates : (below.evaluate db .mysql [(.first, record)]).isSome) :
      ∃ values, below.evaluate db .mysql [(.first, record)] = some values ∧ values.length ≤ 1 := by
    obtain ⟨values, evaluated⟩ := Option.isSome_iff_exists.1 evaluates
    exact ⟨values, evaluated, short values evaluated⟩
  constructor
  · refine bounded (authors db _).1 ((authors db _).2 (.inr ?_) record (.front _ _ _))
    simp [Filter.AsksForOne, IncludesAskForOne]
  · refine bounded (texts db _).1 ((texts db _).2 (.inr ?_) record (.front _ _ _))
    simp [Filter.AsksForOne, IncludesAskForOne]

def Sample.twins : Database :=
  { Sample.ledger with rows := fun _ => [fun _ => .string "c", fun _ => .string "c"] }

def Sample.coauthors : Sql.Select where
  plural := false
  columns := [("name", ⟨⟨1, by decide⟩, "name"⟩)]
  relations := []
  source := .direct
    { table := "authors"
      tableAlias := ⟨1, by decide⟩
      join := none
      correlation := some (.equal ⟨⟨1, by decide⟩, "id"⟩ ⟨.first, "authorId"⟩)
      predicate := none
      order := []
      page := some ⟨2, none⟩ }

theorem subquery_of_two_rows :
    let filter : Filter := { includes := [⟨"author", some { limit := some 2 }⟩] }
    let author : Json := .object [("name", .string "c")]
    ∃ (text : String) (select : Sql.Select),
      compile Sample.blog (.ofDialect .postgresql) "Post" filter {} = .ok text ∧
      statement Sample.blog (.ofDialect .postgresql) "Post" filter {} = .ok select ∧
      select.relations = [("author", Sample.coauthors)] ∧
      Sample.coauthors.evaluate Sample.twins .postgresql [(.first, fun _ => .string "c")] =
        some [author, author] := by
  intro filter author
  refine ⟨_, _, rfl, rfl, rfl, ?_⟩
  rw [Sample.coauthors, Sql.Select.evaluate, if_pos (by rfl)]
  simp only [Sql.Source.arriving, Sql.Rows.cut, Sql.Source.rows, Sql.orderKeys, List.map_nil,
    Database.sorted_nil]
  with_unfolding_all rfl

end NestedQuery
