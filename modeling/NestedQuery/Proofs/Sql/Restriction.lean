import NestedQuery.Proofs.Levels
import NestedQuery.Proofs.Sql.Meaning

set_option autoImplicit false

namespace NestedQuery.Sql

section Behind

variable {tokens rest : List Token} {subject : Scalar} {atom : Atom} {expression : Expression}

theorem readScalar_append {scalar : Scalar} (read : readScalar tokens = some (scalar, rest))
    (tail : List Token) : readScalar (tokens ++ tail) = some (scalar, rest ++ tail) := by
  fun_cases readScalar tokens <;> grind [readScalar]

theorem readScalars_append {scalars : List Scalar} (read : readScalars tokens = some (scalars, rest))
    (tail : List Token) : readScalars (tokens ++ tail) = some (scalars, rest ++ tail) := by
  fun_induction readScalars tokens generalizing scalars with
  | case1 tokens scalar behind found ih =>
    obtain ⟨⟨others, rest'⟩, inner, same⟩ := Option.map_eq_some_iff.1 read
    cases same
    have first := readScalar_append found tail
    rw [List.cons_append] at first
    rw [readScalars_cons first, ih inner]
    rfl
  | case2 tokens scalar behind found =>
    cases read
    exact readScalars_last (readScalar_append found tail)
  | case3 => cases read

def operatorStarts : List Token :=
  [.word "LIKE", .word "ILIKE", .word "GLOB", .symbol "~", .symbol "~*"]

theorem readOperator_like {next : Token} (plain : next ≠ .word "BINARY") (rest : List Token) :
    readOperator (.word "LIKE" :: next :: rest) = some ("LIKE", next :: rest) := by
  unfold readOperator
  split <;> simp_all

theorem readOperator_starts {operator : String} (read : readOperator tokens = some (operator, rest)) :
    ∃ first more, tokens = first :: more ∧ first ∈ operatorStarts := by
  unfold readOperator at read
  split at read
  case h_7 => cases read
  all_goals exact ⟨_, _, rfl, by decide⟩

theorem readOperator_append {operator : String} {next : Token}
    (read : readOperator tokens = some (operator, next :: rest)) (tail : List Token) :
    readOperator (tokens ++ tail) = some (operator, next :: rest ++ tail) := by
  unfold readOperator at read
  split at read
  case h_2 behind notBinary =>
    cases read
    apply readOperator_like
    rintro rfl
    exact notBinary rest rfl
  case h_7 => cases read
  all_goals
    cases read
    rfl

theorem readMatched_eq_some : readMatched subject tokens = some (atom, rest) ↔
    ∃ operator behind pattern, readOperator tokens = some (operator, behind) ∧
      readScalar behind = some (pattern, rest) ∧ atom = .matched subject operator pattern := by
  simp only [readMatched, Option.bind_eq_some_iff, Option.map_eq_some_iff, Prod.exists, Prod.mk.injEq]
  grind

theorem readMatched_append (read : readMatched subject tokens = some (atom, rest))
    (tail : List Token) : readMatched subject (tokens ++ tail) = some (atom, rest ++ tail) := by
  rw [readMatched_eq_some] at read ⊢
  obtain ⟨operator, behind, pattern, found, scalar, same⟩ := read
  cases behind with
  | nil => cases scalar
  | cons next behind =>
    exact ⟨_, _, _, readOperator_append found tail, readScalar_append scalar tail, same⟩

theorem readTest_starts {first : Token} (starts : first ∈ operatorStarts) (more : List Token) :
    readTest subject (first :: more) =
      ((readMatched subject (first :: more)).or (readComparison subject (first :: more))).map
        affirmed := by
  simp only [operatorStarts, List.mem_cons, List.not_mem_nil, or_false] at starts
  obtain rfl | rfl | rfl | rfl | rfl := starts <;> rfl

theorem readTest_matched (read : readMatched subject tokens = some (atom, rest)) :
    readTest subject tokens = some (.atom atom, rest) := by
  obtain ⟨_, _, _, found, _⟩ := readMatched_eq_some.1 read
  obtain ⟨first, more, rfl, starts⟩ := readOperator_starts found
  rw [readTest_starts starts, read]
  rfl

theorem readTest_notMatched (read : readMatched subject tokens = some (atom, rest)) :
    readTest subject (.word "NOT" :: tokens) = some (.not (.atom atom), rest) := by
  obtain ⟨_, _, _, found, _⟩ := readMatched_eq_some.1 read
  obtain ⟨first, more, rfl, starts⟩ := readOperator_starts found
  have denied : readTest subject (.word "NOT" :: first :: more) =
      (readMatched subject (first :: more)).map negated := by
    simp only [operatorStarts, List.mem_cons, List.not_mem_nil, or_false] at starts
    obtain rfl | rfl | rfl | rfl | rfl := starts <;> rfl
  rw [denied, read]
  rfl

theorem readBetween_append (read : readBetween subject tokens = some (atom, rest))
    (tail : List Token) : readBetween subject (tokens ++ tail) = some (atom, rest ++ tail) := by
  obtain ⟨⟨low, middle⟩, lower, upper⟩ := Option.bind_eq_some_iff.1 read
  simp only at upper
  split at upper
  next behind =>
    obtain ⟨⟨high, rest'⟩, scalar, same⟩ := Option.map_eq_some_iff.1 upper
    cases same
    rw [readBetween, readScalar_append lower tail]
    simp [readScalar_append scalar tail]
  next => cases upper

theorem readComparison_eq_some (read : readComparison subject tokens = some (atom, rest)) :
    ∃ comparison behind right, tokens = .symbol (Comparison.symbol comparison) :: behind ∧
      readScalar behind = some (right, rest) ∧ atom = .compare subject comparison right := by
  unfold readComparison at read
  split at read
  next symbol behind =>
    obtain ⟨comparison, found, compared⟩ := Option.bind_eq_some_iff.1 read
    obtain ⟨⟨right, rest'⟩, scalar, same⟩ := Option.map_eq_some_iff.1 compared
    cases same
    have symbol : comparison.symbol = symbol := by simpa using List.find?_some found
    exact ⟨comparison, behind, right, by rw [symbol], scalar, rfl⟩
  next => cases read

theorem readTest_append (read : readTest subject tokens = some (expression, rest))
    (tail : List Token) : readTest subject (tokens ++ tail) = some (expression, rest ++ tail) := by
  unfold readTest at read
  split at read
  case h_1 | h_2 =>
    cases read
    rfl
  case h_3 behind =>
    obtain ⟨⟨atom, rest'⟩, inner, same⟩ := Option.map_eq_some_iff.1 read
    cases same
    simp [readTest, readBetween_append inner tail, affirmed]
  case h_4 | h_5 =>
    obtain ⟨⟨values, rest'⟩, inner, same⟩ := Option.map_eq_some_iff.1 read
    cases same
    have listed := readScalars_append inner tail
    simp [readTest, listed]
  case h_6 =>
    obtain ⟨⟨atom, rest'⟩, inner, same⟩ := Option.map_eq_some_iff.1 read
    cases same
    exact readTest_notMatched (readMatched_append inner tail)
  case h_7 | h_8 =>
    obtain ⟨⟨atom, rest'⟩, inner, same⟩ := Option.map_eq_some_iff.1 read
    cases same
    have := readMatched_append inner tail
    simp only [List.cons_append] at this
    simp [readTest, this, negated]
  case h_9 =>
    obtain ⟨⟨atom, rest'⟩, inner, same⟩ := Option.map_eq_some_iff.1 read
    cases same
    obtain matched | ⟨-, compared⟩ := Option.or_eq_some_iff.1 inner
    · exact readTest_matched (readMatched_append matched tail)
    · obtain ⟨comparison, behind, right, rfl, scalar, rfl⟩ := readComparison_eq_some compared
      exact readTest_compare subject comparison (readScalar_append scalar tail)

theorem readAtom_append (read : readAtom tokens = some (expression, rest))
    (tail : List Token) : readAtom (tokens ++ tail) = some (expression, rest ++ tail) := by
  unfold readAtom at read
  split at read
  next function behind =>
    split at read
    next => cases read
    next free =>
      obtain ⟨⟨values, rest'⟩, inner, same⟩ := Option.map_eq_some_iff.1 read
      cases same
      simp [readAtom, free, readScalars_append inner tail]
  next noCall =>
    obtain ⟨⟨scalar, behind⟩, found, tested⟩ := Option.bind_eq_some_iff.1 read
    have whole := readScalar_append found tail
    have behindSome : behind ≠ [] := by
      rintro rfl
      cases tested
    -- A call would have to open its parentheses within the tokens.
    rcases tokens with _ | ⟨first, _ | ⟨second, more⟩⟩
    · cases found
    · have shorter := readScalar_length found
      rw [List.length_singleton, Nat.lt_one_iff, List.length_eq_zero_iff] at shorter
      exact absurd shorter behindSome
    · rw [List.cons_append, List.cons_append] at whole ⊢
      unfold readAtom
      split
      next function called same =>
        cases same
        exact (noCall function more rfl).elim
      next =>
        rw [whole]
        exact readTest_append tested tail

theorem Derives.append {level : Level} (derives : Derives level tokens expression rest)
    (tail : List Token) : Derives level (tokens ++ tail) expression (rest ++ tail) := by
  refine @Derives.rec
    (fun level tokens expression rest _ => Derives level (tokens ++ tail) expression (rest ++ tail))
    (fun connective first tokens expression rest _ =>
      Joined connective first (tokens ++ tail) expression (rest ++ tail))
    ?atom ?parentheses ?not ?conjunction ?disjunction ?done ?more level tokens expression rest derives
  case atom => exact fun read => .atom (readAtom_append read tail)
  case parentheses => exact fun _ inner => .parentheses inner
  case not => exact fun _ inner => .not inner
  case conjunction => exact fun _ _ head joined => .conjunction head joined
  case disjunction => exact fun _ _ head joined => .disjunction head joined
  case done => exact .done
  case more => exact fun _ _ next joined => .more next joined

/-- Along the members that follow; what the members themselves are made of does not count. -/
theorem Joined.induction
    {motive : {connective : Connective} → {first : Expression} → {tokens : List Token} →
      {expression : Expression} → {rest : List Token} →
        Joined connective first tokens expression rest → Prop}
    (done : ∀ {connective : Connective} {first : Expression} {rest : List Token},
      motive (@Joined.done connective first rest))
    (more : ∀ {connective : Connective} {first second expression : Expression}
      {tokens middle rest : List Token} (next : Derives (memberLevel connective) tokens second middle)
      (tail : Joined connective (.join connective first second) middle expression rest),
      motive tail → motive (.more next tail))
    {connective : Connective} {first : Expression} {tokens : List Token} {expression : Expression}
    {rest : List Token} (joined : Joined connective first tokens expression rest) :
    motive joined := by
  refine @Joined.rec (fun _ _ _ _ _ => True) (fun _ _ _ _ _ joined => motive joined) ?atom
    ?parentheses ?not ?conjunction ?disjunction ?done ?more connective first tokens expression rest
    joined
  case done => exact done
  case more => exact fun next tail _ ih => more next tail ih
  all_goals intros; trivial

theorem Joined.trans {connective : Connective} {first final : Expression} {middle : List Token}
    (joined : Joined connective first tokens expression middle)
    (others : Joined connective expression middle final rest) :
    Joined connective first tokens final rest := by
  induction joined using Joined.induction with
  | done => exact others
  | more next tail ih => exact .more next (ih others)

theorem Joined.last {connective : Connective} {first : Expression}
    (joined : Joined connective first tokens expression rest) :
    (expression = first ∧ tokens = rest) ∨
      ∃ earlier second behind,
        Joined connective first tokens earlier (.word connective.keyword :: behind) ∧
        Derives (memberLevel connective) behind second rest ∧
        expression = .join connective earlier second := by
  induction joined using Joined.induction with
  | done => exact .inl ⟨rfl, rfl⟩
  | more next tail ih =>
    obtain ⟨rfl, rfl⟩ | ⟨earlier, second, behind, before, read, rfl⟩ := ih
    · exact .inr ⟨_, _, _, .done, next, rfl⟩
    · exact .inr ⟨earlier, second, behind, .more next before, read, rfl⟩

theorem Derives.snoc (connective : Connective) {second : Expression} {middle : List Token}
    (derives : Derives (joinLevel connective) tokens expression
      (.word connective.keyword :: middle))
    (next : Derives (memberLevel connective) middle second rest) :
    Derives (joinLevel connective) tokens (.join connective expression second) rest := by
  cases connective with
  | all =>
    obtain ⟨_, _, head, tail⟩ := derives.of_conjunction
    exact .conjunction head (tail.trans (.more next .done))
  | any =>
    obtain ⟨_, _, head, tail⟩ := derives.of_disjunction
    exact .disjunction head (tail.trans (.more next .done))

end Behind

inductive Alternatives (tokens : List Token) : Option Expression → Expression → Prop
  | one {last : Expression} (read : Derives .conjunction tokens last []) :
      Alternatives tokens none last
  | more {earlier last : Expression} {behind : List Token}
      (before : Derives .disjunction tokens earlier (.word "OR" :: behind))
      (read : Derives .conjunction behind last []) : Alternatives tokens (some earlier) last

def orLast (earlier : Option Expression) (last : Expression) : Expression :=
  match earlier with
  | none => last
  | some earlier => .join .any earlier last

section Attaching

variable {tokens : List Token}

theorem exists_alternatives {expression : Expression}
    (derives : Derives .disjunction tokens expression []) :
    ∃ earlier last, Alternatives tokens earlier last ∧ expression = orLast earlier last := by
  obtain ⟨first, middle, head, tail⟩ := derives.of_disjunction
  obtain ⟨rfl, rfl⟩ | ⟨earlier, last, behind, before, read, rfl⟩ := tail.last
  · exact ⟨none, _, .one head, rfl⟩
  · exact ⟨some earlier, last, .more (.disjunction head before) read, rfl⟩

theorem Alternatives.attach {earlier : Option Expression} {last predicate : Expression}
    {behind : List Token} (alternatives : Alternatives tokens earlier last)
    (read : Derives .negation behind predicate []) :
    Derives .disjunction (tokens ++ .word "AND" :: behind)
      (orLast earlier (.join .all last predicate)) [] := by
  have attached {tokens : List Token} (own : Derives .conjunction tokens last []) :
      Derives .conjunction (tokens ++ .word "AND" :: behind) (.join .all last predicate) [] :=
    Derives.snoc .all (own.append (.word "AND" :: behind)) read
  cases alternatives with
  | one own => exact .disjunction (attached own) .done
  | more before own => exact Derives.snoc .any (before.append (.word "AND" :: behind)) (attached own)

theorem orLast_holds (given : Atom → Truth) (earlier : Option Expression) (last : Expression) :
    (orLast earlier last).value given = .holds ↔
      (∃ alternative ∈ earlier, alternative.value given = .holds) ∨ last.value given = .holds := by
  cases earlier with
  | none => simp [orLast]
  | some earlier => simp [orLast, Expression.value, Truth.join, Truth.or_holds]

theorem conjunction_holds (given : Atom → Truth) (left right : Expression) :
    (Expression.join .all left right).value given = .holds ↔
      left.value given = .holds ∧ right.value given = .holds :=
  Truth.and_holds _ _

theorem means_restricted {dialect : Dialect} {restriction text : String} {pieces : List Piece}
    {earlier : Option Expression} {last predicate : Expression}
    (lexed : lex dialect restriction.toList = some tokens)
    (alternatives : Alternatives tokens earlier last) (spelled : Spelled dialect text pieces)
    (read : ReadAs pieces predicate) :
    Means dialect (restriction ++ (" AND " ++ text))
      (orLast earlier (.join .all last predicate)) := by
  have conjunction : Separator dialect " AND " [.word "AND"] := separator_connective dialect .all
  have behind := conjunction.ending spelled
  have whole := lex_append lexed (.inr behind.parted)
  rw [behind.spelled, ← String.toList_append] at whole
  have own := read []
  rw [List.append_nil] at own
  exact means_of_derives whole (alternatives.attach own)

end Attaching

section Restricted

variable {schema : Schema} {dialect : Dialect} {entity : String} {filter : Filter}
  {options : Options} {text restriction : String} {tokens : List Token} {expression : Expression}
  {tree : Where}

theorem planned_restricted {select : Select} {last : Alias}
    (planned : Compile.Planned schema (.ofDialect dialect) entity (.ofOptions options)
      filter select last) (stated : filter.condition = some tree)
    (restricted : options.restriction = some restriction) :
    ∃ predicate, Compile.Resolved schema entity options.tableAlias tree predicate ∧
      " AND ".intercalate (select.source.rows.conditions (.ofDialect dialect)) =
        restriction ++ (" AND " ++ writePredicate (.ofDialect dialect) predicate) := by
  cases planned with
  | level _ _ _ _ resolved =>
    rw [stated] at resolved
    obtain ⟨⟨⟩, -⟩ | ⟨_, predicate, ⟨⟩, rfl, resolves⟩ := Compile.option_mapM_eq_ok.1 resolved
    refine ⟨predicate, Compile.resolved_iff.2 resolves, ?_⟩
    rw [Compile.rows_sourceOf]
    simp only [Rows.conditions, Compile.rowsOf, Compile.Level.ofOptions, restricted]
    rw [← String.append_assoc]
    rfl

/-- Behind a condition of the caller the predicate goes with the last alternative: the rows of the
earlier ones come whatever the predicate says of them. -/
theorem compile_restricted
    (compiles : compile schema (.ofDialect dialect) entity filter options = .ok text)
    (stated : filter.condition = some tree) (restricted : options.restriction = some restriction)
    (lexed : lex dialect restriction.toList = some tokens)
    (formed : Derives .disjunction tokens expression []) :
    ∃ (select : Select) (aggregates : Aggregates) (earlier : Option Expression)
        (last predicate : Expression),
      text = select.write (.ofDialect dialect) aggregates ∧
      Alternatives tokens earlier last ∧ expression = orLast earlier last ∧
      (∀ given, predicate.value given =
        tree.value (leafTruth schema dialect entity options.tableAlias given)) ∧
      Means dialect (" AND ".intercalate (select.source.rows.conditions (.ofDialect dialect)))
        (orLast earlier (.join .all last predicate)) ∧
      ∀ given,
        let kept := (orLast earlier (.join .all last predicate)).value given = .holds
        let wanted := tree.value (leafTruth schema dialect entity options.tableAlias given) = .holds
        (kept ↔ (∃ alternative ∈ earlier, alternative.value given = .holds) ∨
          last.value given = .holds ∧ wanted) ∧
        ((kept ↔ expression.value given = .holds ∧ wanted) ↔
          ∀ alternative ∈ earlier, alternative.value given = .holds → wanted) := by
  obtain ⟨select, _, aggregates, -, planned, rfl⟩ := compile_eq_ok.1 compiles
  obtain ⟨earlier, last, alternatives, rfl⟩ := exists_alternatives formed
  obtain ⟨predicate, resolved, conditions⟩ := planned_restricted planned stated restricted
  obtain ⟨readAs, read, value⟩ := resolved_readAs dialect resolved
  refine ⟨select, aggregates, earlier, last, readAs, rfl, alternatives, rfl, value, ?_,
    fun given => ?_⟩
  · rw [conditions]
    exact means_restricted lexed alternatives (spelled_predicate dialect predicate) read
  · simp only [orLast_holds, conjunction_holds, value, true_and]
    grind

end Restricted

theorem Means.unique {dialect : Dialect} {text : String} {first second : Expression}
    (means : Means dialect text first) (means' : Means dialect text second) : first = second := by
  obtain ⟨tokens, lexed, reads⟩ := means
  obtain ⟨tokens', lexed', reads'⟩ := means'
  cases Option.some.inj (lexed.symm.trans lexed')
  exact (reads' first).1 ((reads first).2 rfl)

namespace Sample

def unlikeB : Where := Where.test "name" (.notLike (.like "B%" false))

def named : Filter where
  condition := some unlikeB

def owned : String := "NOT _0.\"owner\" = 7 AND _0.\"id\" > 2 OR _0.\"owner\" = 8"

def is (name : String) (comparison : Comparison) (number : String) : Expression :=
  .atom (.compare (.column "_0" name) comparison (.number false number))

def ownedTokens : List Token :=
  [.word "NOT", .word "_0", .symbol ".", .name "owner", .symbol "=", .number "7", .word "AND",
    .word "_0", .symbol ".", .name "id", .symbol ">", .number "2", .word "OR",
    .word "_0", .symbol ".", .name "owner", .symbol "=", .number "8"]

def ownedFirst : Expression := .join .all (.not (is "owner" .eq "7")) (is "id" .gt "2")

theorem lex_owned : lex .sqlite owned.toList = some ownedTokens := by decide +kernel

theorem alternatives_owned :
    Alternatives ownedTokens (some ownedFirst) (is "owner" .eq "8") :=
  .more
    (.disjunction (.conjunction (.not (.atom rfl)) (.more (.atom rfl) .done)) .done)
    (.conjunction (.atom rfl) .done)

theorem derives_owned :
    Derives .disjunction ownedTokens (.join .any ownedFirst (is "owner" .eq "8")) [] :=
  .disjunction (.conjunction (.not (.atom rfl)) (.more (.atom rfl) .done))
    (.more (.conjunction (.atom rfl) .done) .done)

end Sample

theorem compile_restricted_customers :
    ∃ text,
      compile Sample.shop (.ofDialect .sqlite) "Customer" Sample.named
        { restriction := some Sample.owned } = .ok text ∧
      lex .sqlite Sample.owned.toList = some Sample.ownedTokens ∧
      ∃ (select : Select) (aggregates : Aggregates) (earlier : Option Expression)
          (last predicate : Expression),
        text = select.write (.ofDialect .sqlite) aggregates ∧
        Alternatives Sample.ownedTokens earlier last ∧
        Means .sqlite (" AND ".intercalate (select.source.rows.conditions (.ofDialect .sqlite)))
          (orLast earlier (.join .all last predicate)) := by
  obtain ⟨text, compiles⟩ : ∃ text,
      compile Sample.shop (.ofDialect .sqlite) "Customer" Sample.named
        { restriction := some Sample.owned } = .ok text := ⟨_, rfl⟩
  obtain ⟨select, aggregates, earlier, last, predicate, written, alternatives, -, -, means, -⟩ :=
    compile_restricted compiles rfl rfl Sample.lex_owned Sample.derives_owned
  exact ⟨text, compiles, Sample.lex_owned, select, aggregates, earlier, last, predicate, written,
    alternatives, means⟩

theorem restriction_not_conjoined :
    ∃ (select : Select) (expression : Expression),
      statement Sample.shop (.ofDialect .sqlite) "Customer" Sample.named
        { restriction := some Sample.owned } = .ok select ∧
      Means .sqlite Sample.owned expression ∧
      ¬ ∃ whole,
        Means .sqlite (" AND ".intercalate (select.source.rows.conditions (.ofDialect .sqlite)))
          whole ∧
        ∀ given, whole.value given = .holds ↔ expression.value given = .holds ∧
          Sample.unlikeB.value (leafTruth Sample.shop .sqlite "Customer" .first given) =
            .holds := by
  obtain ⟨select, compiles⟩ : ∃ select,
      statement Sample.shop (.ofDialect .sqlite) "Customer" Sample.named
        { restriction := some Sample.owned } = .ok select := ⟨_, rfl⟩
  obtain ⟨⟨_, last⟩, plans, rfl⟩ := map_eq_ok.1 compiles
  obtain ⟨predicate, resolved, conditions⟩ :=
    planned_restricted (Compile.planned_iff.2 plans) rfl rfl
  obtain ⟨conjunct, read, -⟩ := resolved_readAs .sqlite resolved
  have means := means_restricted Sample.lex_owned Sample.alternatives_owned
    (spelled_predicate .sqlite predicate) read
  refine ⟨_, _, compiles, means_of_derives Sample.lex_owned Sample.derives_owned, ?_⟩
  rintro ⟨whole, means', both⟩
  rw [conditions] at means'
  cases means'.unique means
  -- The first alternative admits such a customer, and the pattern matches its name.
  let given (atom : Atom) : Truth :=
    if atom = .compare (.column "_0" "owner") .eq (.number false "7") then .fails else .holds
  have kept := (orLast_holds given (some Sample.ownedFirst)
    (.join .all (Sample.is "owner" .eq "8") conjunct)).2 (.inl ⟨_, rfl, rfl⟩)
  have fails := ((both given).1 kept).2
  cases fails

end NestedQuery.Sql
