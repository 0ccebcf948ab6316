import NestedQuery.Proofs.RoundTrip
import NestedQuery.Proofs.Separate

set_option autoImplicit false

namespace NestedQuery

inductive Entity.Reaches : Entity → List String → Entity → Prop
  | self {e : Entity} : Reaches e [] e
  | through {e child below : Entity} {name : String} {names : List String}
      {related : Related Entity} (held : (name, related) ∈ e.relations)
      (mem : child ∈ related.entities) (beyond : Reaches child names below) :
      Reaches e (name :: names) below

def Filter.scopeAt : Filter → List String → Option Filter
  | filter, [] => some filter
  | filter, name :: names =>
    (filter.includes.find? fun included => included.relation = name).bind fun included =>
      (included.scope.getD {}).scopeAt names

namespace Materialize

mutual

inductive WellShaped (schema : Schema) : String → Filter → Json → Prop
  | object {entity : String} {filter : Filter} {members : List (String × Json)}
      (relations : ∀ included ∈ filter.includes, ∀ relation,
        schema.relation entity included.relation = .ok relation →
          WellShapedMember schema relation (included.scope.getD {})
            (Keyed.find? included.relation members)) :
      WellShaped schema entity filter (.object members)

inductive WellShapedMember (schema : Schema) : Relation → Filter → Option Json → Prop
  | missing {relation : Relation} {scope : Filter} : WellShapedMember schema relation scope none
  | value {relation : Relation} {scope : Filter} {value : Json}
      (shaped : WellShapedValue schema relation scope value) :
      WellShapedMember schema relation scope (some value)
  | text {relation : Relation} {scope : Filter} {text : String} {value : Json}
      (spelled : Json.read text = .ok value)
      (shaped : WellShapedValue schema relation scope value) :
      WellShapedMember schema relation scope (some (.string text))

inductive WellShapedValue (schema : Schema) : Relation → Filter → Json → Prop
  | null {relation : Relation} {scope : Filter} : WellShapedValue schema relation scope .null
  | array {relation : Relation} {scope : Filter} {items : List Json}
      (many : relation.multiplicity = .many)
      (each : ∀ item ∈ items, WellShaped schema relation.target scope item) :
      WellShapedValue schema relation scope (.array items)
  | object {relation : Relation} {scope : Filter} {members : List (String × Json)}
      (one : relation.multiplicity = .one)
      (shaped : WellShaped schema relation.target scope (.object members)) :
      WellShapedValue schema relation scope (.object members)

end

inductive WellShapedRow (schema : Schema) (entity : String) (filter : Filter) : Row → Prop
  | absent : WellShapedRow schema entity filter none
  | null {text : String} (spelled : Json.read text = .ok .null) :
      WellShapedRow schema entity filter (some text)
  | object {text : String} {value : Json} (spelled : Json.read text = .ok value)
      (shaped : WellShaped schema entity filter value) :
      WellShapedRow schema entity filter (some text)
  | array {text : String} {items : List Json} (spelled : Json.read text = .ok (.array items))
      (each : ∀ item ∈ items, WellShaped schema entity filter item) :
      WellShapedRow schema entity filter (some text)

variable {schema : Schema} {entity : String} {filter : Filter}

theorem parse_eq_ok {text : String} {value : Json} :
    parse text = .ok value ↔ Json.read text = .ok value := by
  unfold parse
  cases Json.read text <;> simp

theorem relationPayload_eq_ok {name : String} {members : List (String × Json)} {value : Json} :
    relationPayload name members = .ok value ↔
      (Keyed.find? name members = none ∧ value = .null) ∨
      (Keyed.find? name members = some value ∧ ∀ text, value ≠ .string text) ∨
      ∃ text, Keyed.find? name members = some (.string text) ∧ Json.read text = .ok value := by
  unfold relationPayload
  cases found : Keyed.find? name members with
  | none => simp [eq_comm]
  | some given =>
    cases given with
    | string text =>
      simp only [parse_eq_ok, Option.some.injEq, Json.string.injEq, reduceCtorEq, false_and,
        false_or, exists_eq_left']
      constructor
      · exact .inr
      · rintro (⟨rfl, plain⟩ | spelled)
        · exact absurd rfl (plain text)
        · exact spelled
    | _ =>
      simp only [Except.ok.injEq, Option.some.injEq, reduceCtorEq, false_and, false_or,
        exists_false, or_false]
      constructor
      · rintro rfl
        simp
      · rintro ⟨rfl, -⟩
        rfl

section Relation

variable {relation : Relation} {scope : Filter}
  (target : ∀ payload, (∃ e, entityOf schema relation.target scope payload = .ok e) ↔
    WellShaped schema relation.target scope payload)

include target

theorem filled_exists {value : Json} :
    (∃ related, Filled (entityOf schema relation.target scope) relation.multiplicity value
      related) ↔ WellShapedValue schema relation scope value := by
  constructor
  · rintro ⟨related, filled⟩
    generalize kind : relation.multiplicity = multiplicity at filled
    cases filled with
    | empty => exact .null
    | many read =>
      exact .array kind fun item mem => (target item).1 (mapM_succeeds.1 ⟨_, read⟩ item mem)
    | absent => exact .null
    | one read => exact .object kind ((target _).1 ⟨_, read⟩)
  · intro shaped
    cases shaped with
    | null =>
      cases relation.multiplicity with
      | one => exact ⟨_, .absent⟩
      | many => exact ⟨_, .empty⟩
    | array many each =>
      obtain ⟨children, read⟩ := mapM_succeeds.2 fun item mem => (target item).2 (each item mem)
      rw [many]
      exact ⟨_, .many read⟩
    | object one shaped =>
      obtain ⟨child, read⟩ := (target _).2 shaped
      rw [one]
      exact ⟨_, .one read⟩

end Relation

theorem relationOf_succeeds {included : Include Filter} {relation : Relation}
    {members : List (String × Json)}
    (found : schema.relation entity included.relation = .ok relation)
    (target : ∀ payload,
      (∃ e, entityOf schema relation.target (included.scope.getD {}) payload = .ok e) ↔
        WellShaped schema relation.target (included.scope.getD {}) payload) :
    (∃ related, relationOf schema entity members included = .ok related) ↔
      WellShapedMember schema relation (included.scope.getD {})
        (Keyed.find? included.relation members) := by
  have opened : (∃ related, relationOf schema entity members included = .ok related) ↔
      ∃ value, relationPayload included.relation members = .ok value ∧
        WellShapedValue schema relation (included.scope.getD {}) value := by
    simp only [relationOf, found, bind_ok, bind_eq_ok, ← filled_iff, ← filled_exists target]
    exact ⟨fun ⟨related, value, given, filled⟩ => ⟨value, given, related, filled⟩,
      fun ⟨value, given, related, filled⟩ => ⟨related, value, given, filled⟩⟩
  rw [opened]
  constructor
  · rintro ⟨value, given, shaped⟩
    rcases relationPayload_eq_ok.1 given with ⟨missing, -⟩ | ⟨held, -⟩ | ⟨text, held, spelled⟩
    · rw [missing]
      exact .missing
    · rw [held]
      exact .value shaped
    · rw [held]
      exact .text spelled shaped
  · intro shaped
    cases held : Keyed.find? included.relation members with
    | none => exact ⟨.null, relationPayload_eq_ok.2 (.inl ⟨held, rfl⟩), .null⟩
    | some given =>
      rw [held] at shaped
      cases shaped with
      | value shaped =>
        refine ⟨given, relationPayload_eq_ok.2 (.inr (.inl ⟨held, ?_⟩)), shaped⟩
        rintro text rfl
        cases shaped
      | text spelled shaped =>
        exact ⟨_, relationPayload_eq_ok.2 (.inr (.inr ⟨_, held, spelled⟩)), shaped⟩

theorem entityOf_succeeds (named : filter.WellNamed schema entity) (payload : Json) :
    (∃ e, entityOf schema entity filter payload = .ok e) ↔
      WellShaped schema entity filter payload := by
  induction named generalizing payload with
  | @level entity filter names listed distinct apart known scopes ih =>
    have each (members : List (String × Json)) : ∀ included ∈ filter.includes, ∀ relation,
        schema.relation entity included.relation = .ok relation →
          ((∃ related, relationOf schema entity
              (takeAttributes schema entity [] members (Fields.project filter.fields names)).2
              included = .ok related) ↔
            WellShapedMember schema relation (included.scope.getD {})
              (Keyed.find? included.relation members)) := by
      intro included mem relation found
      have left : Keyed.find? included.relation (takeAttributes schema entity [] members
          (Fields.project filter.fields names)).2 = Keyed.find? included.relation members := by
        rw [find?_left, if_neg (apart _ (List.mem_map_of_mem mem))]
      rw [relationOf_congr left]
      exact relationOf_succeeds found (ih included mem relation found)
    simp only [entityOf_eq_ok]
    constructor
    · rintro ⟨_, members, _, relations, rfl, listed', read, -⟩
      cases listed.symm.trans listed'
      refine .object fun included mem relation found => ?_
      exact (each members included mem relation found).1
        ((relationsOf_succeeds distinct).1 ⟨relations, read⟩ included mem)
    · rintro ⟨shaped⟩
      obtain ⟨relations, read⟩ := (relationsOf_succeeds distinct).2 fun included mem => by
        obtain ⟨relation, found⟩ := known included mem
        exact (each _ included mem relation found).2 (shaped included mem relation found)
      exact ⟨_, _, names, relations, rfl, listed, read, rfl⟩

theorem valueEntities_succeeds (named : filter.WellNamed schema entity) (value : Json) :
    (∃ entities, valueEntities schema entity filter value = .ok entities) ↔
      value = .null ∨ WellShaped schema entity filter value ∨
        ∃ items, value = .array items ∧ ∀ item ∈ items, WellShaped schema entity filter item := by
  have noObject {value : Json} (other : ∀ members, value ≠ .object members) :
      ¬ WellShaped schema entity filter value := by
    rintro ⟨⟩
    exact other _ rfl
  cases value with
  | null => simp [valueEntities]
  | array items =>
    have plain : ¬ WellShaped schema entity filter (.array items) := noObject (by simp)
    simp [valueEntities, mapM_succeeds, entityOf_succeeds named, plain]
  | object members =>
    simp [valueEntities, bind_eq_ok, pure, Except.pure, ← entityOf_succeeds named, exists_comm]
  | _ => simp [valueEntities, noObject]

theorem rowEntities_succeeds (named : filter.WellNamed schema entity) (row : Row) :
    (∃ entities, rowEntities schema entity filter row = .ok entities) ↔
      WellShapedRow schema entity filter row := by
  cases row with
  | none => exact ⟨fun _ => .absent, fun _ => ⟨[], rfl⟩⟩
  | some text =>
    have opened : (∃ entities, rowEntities schema entity filter (some text) = .ok entities) ↔
        ∃ value, Json.read text = .ok value ∧
          ∃ entities, valueEntities schema entity filter value = .ok entities := by
      simp only [rowEntities, bind_eq_ok, parse_eq_ok]
      constructor
      · rintro ⟨entities, value, spelled, read⟩
        exact ⟨value, spelled, entities, read⟩
      · rintro ⟨value, spelled, entities, read⟩
        exact ⟨entities, value, spelled, read⟩
    simp only [opened, valueEntities_succeeds named]
    constructor
    · rintro ⟨_, spelled, rfl | shaped | ⟨items, rfl, each⟩⟩
      · exact .null spelled
      · exact .object spelled shaped
      · exact .array spelled each
    · rintro (_ | spelled | ⟨spelled, shaped⟩ | ⟨spelled, each⟩)
      · exact ⟨_, spelled, .inl rfl⟩
      · exact ⟨_, spelled, .inr (.inl shaped)⟩
      · exact ⟨_, spelled, .inr (.inr ⟨_, rfl, each⟩)⟩

end Materialize

theorem materialize_succeeds {schema : Schema} {entity : String} {filter : Filter}
    (named : filter.WellNamed schema entity) (rows : List Row) :
    (∃ entities, materialize schema entity filter rows = .ok entities) ↔
      ∀ row ∈ rows, Materialize.WellShapedRow schema entity filter row := by
  simp only [← Materialize.rowEntities_succeeds named, ← mapM_succeeds, materialize, map_eq_ok]
  constructor
  · rintro ⟨_, lists, read, -⟩
    exact ⟨lists, read⟩
  · rintro ⟨lists, read⟩
    exact ⟨_, lists, read, rfl⟩

theorem Entity.Conforms.shaped_at {schema : Schema} {entity : String} {filter : Filter}
    {e below : Entity} {names : List String} (conforms : e.Conforms schema entity filter)
    (named : filter.WellNamed schema entity) (reaches : e.Reaches names below) :
    ∃ owner scope, schema.entityAt entity names = .ok owner ∧
      filter.scopeAt names = some scope ∧ below.Shaped schema owner scope := by
  induction reaches generalizing entity filter with
  | self =>
    cases conforms with
    | level shaped => exact ⟨entity, filter, rfl, rfl, shaped⟩
  | @through e child below name names related held mem beyond ih =>
    cases conforms with
    | level shaped children =>
      cases named with
      | level listed distinct apart known scopes =>
        obtain ⟨included, listed, rfl⟩ :=
          List.mem_map.1 (shaped.included name (List.mem_map_of_mem held))
        obtain ⟨relation, found⟩ := known included listed
        have first := Materialize.find?_first distinct listed
        have own : e.related? included.relation = some related :=
          Keyed.find?_of_mem shaped.relationsSorted.nodup held
        obtain ⟨owner, scope, reached, filtered, shaped⟩ :=
          ih (children included listed relation related child found own mem)
            (scopes included listed relation found)
        refine ⟨owner, scope, ?_, ?_, shaped⟩
        · rw [Schema.entityAt, found, bind_ok, reached]
        · rw [Filter.scopeAt, first, Option.bind_some, filtered]

theorem materialize_shapes {schema : Schema} {entity : String} {filter : Filter}
    (named : filter.WellNamed schema entity) (rows : List Row) :
    ((∃ entities, materialize schema entity filter rows = .ok entities) ↔
      ∀ row ∈ rows, Materialize.WellShapedRow schema entity filter row) ∧
    ∀ entities, materialize schema entity filter rows = .ok entities →
      ∀ e ∈ entities, ∀ (names : List String) (below : Entity), e.Reaches names below →
        ∃ owner scope, schema.entityAt entity names = .ok owner ∧
          filter.scopeAt names = some scope ∧ below.Shaped schema owner scope := by
  refine ⟨materialize_succeeds named rows, fun entities result e mem names below reaches => ?_⟩
  obtain ⟨_, _, _, -, -, -, read⟩ := materialize_mem result mem
  exact (Materialize.conforms_of_entityOf named read).shaped_at named reaches

def Sample.blog : Schema :=
  Schema.withEntity {} "Post"
      ((EntityDef.ofTable "posts").withTypedField "open" "open" .boolean
        |>.withRelation "author" (.belongsTo "Author" "authorId")
        |>.withRelation "comments" (.hasMany "Comment" "postId"))
    |>.withEntity "Author" ((EntityDef.ofTable "authors").withField "name")
    |>.withEntity "Comment" ((EntityDef.ofTable "comments").withField "text")

def Sample.posts : Filter where
  includes := [⟨"author", none⟩, ⟨"comments", some { limit := some 3 }⟩]

def Sample.comments : String := "[\x7b\"text\":\"x\"\x7d]"

def Sample.post : String :=
  "[\x7b\"open\":1,\"author\":null,\"comments\":\"[\x7b\\\"text\\\":\\\"x\\\"\x7d]\"\x7d]"

theorem Sample.read_post : Json.read Sample.post = .ok (.array
    [.object [("open", .number (.int 1)), ("author", .null), ("comments", .string comments)]]) := by
  with_unfolding_all rfl

theorem Sample.payload_comments {members : List (String × Json)}
    (held : Keyed.find? "comments" members = some (.string comments)) :
    Materialize.relationPayload "comments" members =
      .ok (.array [.object [("text", .string "x")]]) := by
  have read : Json.read comments = .ok (.array [.object [("text", .string "x")]]) := by
    with_unfolding_all rfl
  exact Materialize.relationPayload_eq_ok.2 (.inr (.inr ⟨_, held, read⟩))

def Sample.misshapenPost : String := "\x7b\"author\":[]\x7d"

theorem Sample.not_wellShaped :
    ¬ Materialize.WellShapedRow Sample.blog "Post" Sample.posts (some Sample.misshapenPost) := by
  have read : Json.read Sample.misshapenPost = .ok (.object [("author", .array [])]) := by
    with_unfolding_all rfl
  rintro (_ | spelled | ⟨spelled, shaped⟩ | ⟨spelled, -⟩)
  · cases read.symm.trans spelled
  · cases read.symm.trans spelled
    cases shaped with
    | object relations =>
      cases relations ⟨"author", none⟩ List.mem_cons_self _ rfl with
      | value shaped =>
        cases shaped with
        | array many => cases many
  · cases read.symm.trans spelled

theorem materialize_shapes_blog :
    let rows : List Row := [none, some Sample.post]
    let comment : Entity := { model := "Comment", attributes := [("text", .string "x")] }
    let post : Entity :=
      { model := "Post"
        attributes := [("open", .bool true)]
        relations := [("comments", .many [comment])] }
    Sample.posts.WellNamed Sample.blog "Post" ∧
      materialize Sample.blog "Post" Sample.posts rows = .ok [post] ∧
      (∀ row ∈ rows, Materialize.WellShapedRow Sample.blog "Post" Sample.posts row) ∧
      comment.Shaped Sample.blog "Comment" { limit := some 3 } ∧
      ¬ ∃ entities,
        materialize Sample.blog "Post" Sample.posts [some Sample.misshapenPost] = .ok entities := by
  intro rows comment post
  have author : Sample.blog.relation "Post" "author" = .ok (.belongsTo "Author" "authorId") := rfl
  have comments : Sample.blog.relation "Post" "comments" = .ok (.hasMany "Comment" "postId") := rfl
  have fields : Sample.blog.fieldNames "Post" = .ok ["open"] := rfl
  have named : Sample.posts.WellNamed Sample.blog "Post" := by
    have authors : Filter.WellNamed Sample.blog "Author" {} := .of_no_includes rfl rfl
    have texts : Filter.WellNamed Sample.blog "Comment" { limit := some 3 } :=
      .of_no_includes rfl rfl
    apply Filter.WellNamed.level fields <;>
      simp [Sample.posts, author, comments, authors, texts, Fields.project, Relation.belongsTo,
        Relation.hasMany]
  have result : materialize Sample.blog "Post" Sample.posts rows = .ok [post] := by
    rw [materialize_given (.cons .null (.cons (.text Sample.read_post) .nil))]
    simp only [Materialize.valueEntities, List.mapM_cons, bind_ok, Sample.posts,
      Materialize.entityOf, Materialize.entityWith, Materialize.relationsOf, fields, author,
      comments]
    rw [Sample.payload_comments rfl]
    rfl
  refine ⟨named, result, (materialize_shapes named rows).1.1 ⟨_, result⟩, ?_, ?_⟩
  · obtain ⟨owner, scope, reached, filtered, shaped⟩ := (materialize_shapes named rows).2 _ result
      post List.mem_cons_self ["comments"] comment
        (.through List.mem_cons_self List.mem_cons_self .self)
    cases reached
    cases filtered
    exact shaped
  · rw [(materialize_shapes named _).1, List.forall_mem_singleton]
    exact Sample.not_wellShaped

end NestedQuery
