import NestedQuery.Proofs.Plan
import NestedQuery.Session

set_option autoImplicit false

namespace NestedQuery

inductive Call
  | compile (entity : String) (filter : Filter)
  | find (entity : String) (filter : Filter)
  | findOne (entity : String) (filter : Filter)
  | findById (entity : String) (id : Literal) (filter : Filter)

inductive Answer
  | statement (result : Except Error String)
  | entities (result : Except Error (List Entity))
  | entity (result : Except Error (Option Entity))

namespace Session

def call (session : Session) : Call → StateM Channel Answer
  | .compile entity filter => return .statement (session.compile entity filter)
  | .find entity filter => return .entities (← session.find entity filter)
  | .findOne entity filter => return .entity (← session.findOne entity filter)
  | .findById entity id filter => return .entity (← session.findById entity id filter)

def runAll (session : Session) (calls : List Call) : StateM Channel (List Answer) :=
  calls.mapM session.call

end Session

namespace Call

def target : Call → String
  | compile entity _ | find entity _ | findOne entity _ | findById entity _ _ => entity

def effective (schema : Schema) : Call → Filter
  | compile _ filter | find _ filter => filter
  | findOne _ filter => { filter with limit := some 1 }
  | findById entity id filter =>
    let same : Where := .leaf ⟨schema.idField entity, .compare .eq id⟩
    { filter with
      limit := some 1
      condition := match filter.condition with
        | none => some same
        | some given => some (.group .all [same, given]) }

end Call

namespace Session

variable (session : Session)

def sqlOf (call : Call) : Except Error String :=
  NestedQuery.compile session.schema session.adapter call.target (call.effective session.schema) {}

def executes (call : Call) : Option String :=
  match call with
  | .compile _ _ => none
  | _ => (session.sqlOf call).toOption

def statements (calls : List Call) : List String := calls.filterMap session.executes

def found (call : Call) (reply : Reply) : Except Error (List Entity) :=
  match session.sqlOf call, reply with
  | .error error, _ => .error error
  | .ok _, .error error => .error error
  | .ok _, .rows rows =>
    materialize session.schema call.target (call.effective session.schema) rows

def answer (call : Call) (reply : Reply) : Answer :=
  match call with
  | .compile _ _ => .statement (session.sqlOf call)
  | .find _ _ => .entities (session.found call reply)
  | .findOne _ _ | .findById _ _ _ => .entity ((session.found call reply).map List.head?)

end Session

namespace Channel

variable (channel : Channel)

def reply (n : Nat) : Reply := channel.replies.getD n (.rows [])

def executing (statements : List String) : Channel :=
  ⟨channel.replies.drop statements.length, channel.executed ++ statements.map (⟨·, []⟩)⟩

@[simp] theorem executing_nil : channel.executing [] = channel := by
  simp [executing]

theorem executing_append (first second : List String) :
    channel.executing (first ++ second) = (channel.executing first).executing second := by
  simp [executing, List.drop_drop]

theorem reply_executing (statements : List String) (n : Nat) :
    (channel.executing statements).reply n = channel.reply (statements.length + n) := by
  simp [executing, reply, List.getD_eq_getElem?_getD]

theorem execute_eq (sql : String) : channel.execute sql =
    (match channel.reply 0 with
      | .error error => .error error
      | .rows rows => .ok rows, channel.executing [sql]) := by
  obtain ⟨replies, executed⟩ := channel
  cases replies with
  | nil => rfl
  | cons reply rest => cases reply <;> rfl

end Channel

namespace Session

variable (session : Session)

theorem find_eq (entity : String) (filter : Filter) (channel : Channel) :
    session.find entity filter channel =
      match session.compile entity filter with
      | .error error => (.error error, channel)
      | .ok sql =>
        (match channel.reply 0 with
          | .error error => .error error
          | .rows rows => materialize session.schema entity filter rows,
          channel.executing [sql]) := by
  unfold find
  cases session.compile entity filter with
  | error error => rfl
  | ok sql =>
    dsimp only
    rw [channel.execute_eq]
    cases channel.reply 0 <;> rfl

theorem effective_findById (entity : String) (id : Literal) (filter : Filter) :
    (Call.findById entity id filter).effective session.schema =
      (session.byId entity id filter).limitedTo 1 := by
  obtain ⟨condition, order, limit, skip, fields, includes⟩ := filter
  cases condition <;> rfl

theorem find_effective (call : Call) (own : ∀ entity filter, call ≠ .compile entity filter)
    (channel : Channel) :
    session.find call.target (call.effective session.schema) channel =
      (session.found call (channel.reply 0), channel.executing (session.executes call).toList) := by
  have asked : session.executes call = (session.sqlOf call).toOption := by
    unfold executes
    split
    · exact absurd rfl (own _ _)
    · rfl
  rw [find_eq, asked]
  change (match session.sqlOf call with | .error _ => _ | .ok _ => _) = _
  unfold found
  cases session.sqlOf call with
  | error error => simp [Except.toOption]
  | ok sql => cases channel.reply 0 <;> simp [Except.toOption]

theorem call_eq (call : Call) (channel : Channel) :
    session.call call channel = (session.answer call (channel.reply 0),
      channel.executing (session.executes call).toList) := by
  let first (result : Except Error (List Entity)) : Answer := .entity (result.map List.head?)
  cases call with
  | compile entity filter =>
    have unchanged : channel.executing [] = channel := channel.executing_nil
    exact congrArg (Prod.mk _) unchanged.symm
  | find entity filter =>
    have found := session.find_effective (.find entity filter) nofun channel
    exact congrArg (Prod.map Answer.entities id) found
  | findOne entity filter =>
    have found := session.find_effective (.findOne entity filter) nofun channel
    exact congrArg (Prod.map first id) found
  | findById entity key filter =>
    have found := session.find_effective (.findById entity key filter) nofun channel
    rw [effective_findById] at found
    exact congrArg (Prod.map first id) found

theorem statements_nil : session.statements [] = [] := rfl

theorem statements_cons (call : Call) (rest : List Call) :
    session.statements (call :: rest) =
      (session.executes call).toList ++ session.statements rest := by
  unfold statements
  cases asked : session.executes call <;> simp [asked]

theorem runAll_cons (call : Call) (rest : List Call) (channel : Channel) :
    session.runAll (call :: rest) channel =
      (session.answer call (channel.reply 0) ::
          (session.runAll rest (channel.executing (session.executes call).toList)).1,
        (session.runAll rest (channel.executing (session.executes call).toList)).2) := by
  simp only [runAll, List.mapM_cons, bind, StateT.bind, call_eq]
  rfl

theorem runAll_eq (calls : List Call) (channel : Channel) :
    session.runAll calls channel =
      (calls.mapIdx fun i call =>
          session.answer call (channel.reply (session.statements (calls.take i)).length),
        channel.executing (session.statements calls)) := by
  induction calls generalizing channel with
  | nil => exact congrArg (Prod.mk []) channel.executing_nil.symm
  | cons call rest ih =>
    rw [runAll_cons, ih, List.mapIdx_cons, statements_cons, Channel.executing_append]
    simp [statements_cons, statements_nil, Channel.reply_executing]

theorem length_runAll (calls : List Call) (channel : Channel) :
    (session.runAll calls channel).1.length = calls.length := by
  rw [runAll_eq, List.length_mapIdx]

theorem getElem?_runAll (calls : List Call) (channel : Channel) (i : Nat) :
    (session.runAll calls channel).1[i]? = calls[i]?.map fun call =>
      session.answer call (channel.reply (session.statements (calls.take i)).length) := by
  rw [runAll_eq, List.getElem?_mapIdx]

theorem runAll_append (first second : List Call) (channel : Channel) :
    session.runAll (first ++ second) channel =
      ((session.runAll first channel).1 ++
          (session.runAll second (channel.executing (session.statements first))).1,
        (session.runAll second (channel.executing (session.statements first))).2) := by
  induction first generalizing channel with
  | nil =>
    rw [statements_nil, Channel.executing_nil]
    rfl
  | cons call first ih =>
    rw [List.cons_append, runAll_cons, runAll_cons, ih, statements_cons, Channel.executing_append]
    rfl

theorem runAll_without {call : Call} (silent : session.executes call = none)
    (earlier later : List Call) (channel : Channel) :
    session.runAll (earlier ++ later) channel =
      ((session.runAll (earlier ++ call :: later) channel).1.eraseIdx earlier.length,
        (session.runAll (earlier ++ call :: later) channel).2) := by
  have length := session.length_runAll earlier channel
  have unchanged (channel : Channel) :
      channel.executing (session.executes call).toList = channel := by
    rw [silent, Option.toList_none, Channel.executing_nil]
  rw [runAll_append, runAll_append, runAll_cons, unchanged,
    List.eraseIdx_append_of_length_le (Nat.le_of_eq length)]
  simp [length]

/-- Every call is answered as if it were alone with the reply to the next statement, the statements
are executed in the order of the calls, and a call tells of others only by how many statements those
before it have executed: not by what they asked, nor by whether they failed. -/
theorem runAll_calls (calls : List Call) (channel : Channel) :
    session.runAll calls channel =
        (calls.mapIdx fun i call =>
            session.answer call (channel.reply (session.statements (calls.take i)).length),
          channel.executing (session.statements calls)) ∧
      (∀ (others : List Call) (other : Channel) (i j : Nat), calls[i]? = others[j]? →
        channel.reply (session.statements (calls.take i)).length =
          other.reply (session.statements (others.take j)).length →
        (session.runAll calls channel).1[i]? = (session.runAll others other).1[j]?) ∧
      (∀ earlier call later, calls = earlier ++ call :: later → session.executes call = none →
        session.runAll (earlier ++ later) channel =
          ((session.runAll calls channel).1.eraseIdx earlier.length,
            (session.runAll calls channel).2)) ∧
      (∀ (n : Nat) (reply : Reply) (i : Nat), (session.statements (calls.take i)).length ≠ n →
        (session.runAll calls { channel with replies := channel.replies.set n reply }).1[i]? =
          (session.runAll calls channel).1[i]?) := by
  refine ⟨session.runAll_eq calls channel, ?_, ?_, ?_⟩
  · intro others other i j same replied
    rw [getElem?_runAll, getElem?_runAll, same, replied]
  · rintro earlier call later rfl silent
    exact session.runAll_without silent earlier later channel
  · intro n reply i different
    have replied : Channel.reply { channel with replies := channel.replies.set n reply }
        (session.statements (calls.take i)).length =
          channel.reply (session.statements (calls.take i)).length := by
      simp [Channel.reply, List.getD_eq_getElem?_getD, Ne.symm different]
    rw [getElem?_runAll, getElem?_runAll, replied]

end Session

def Sample.searches : List Call :=
  [.find "Ghost" {}, .findOne "Customer" {},
    .findById "Customer" (.int 2) { condition := some (Where.eq "name" (.text "Ann")) }]

def Sample.session : Session := ⟨shop, .ofDialect .mysql⟩

def Sample.busy : Channel := ⟨[.failure "locked" none, .rows []], []⟩

theorem runAll_calls_searches :
    ∃ one byId,
      Sample.session.runAll Sample.searches Sample.busy =
        ([.entities (.error (.unknownEntity "Ghost")), .entity (.error (.execution "locked" none)),
          .entity (.ok none)], ⟨[], [⟨one, []⟩, ⟨byId, []⟩]⟩) ∧
      Sample.session.runAll Sample.searches.tail Sample.busy =
        ([.entity (.error (.execution "locked" none)), .entity (.ok none)],
          ⟨[], [⟨one, []⟩, ⟨byId, []⟩]⟩) ∧
      (Sample.session.runAll Sample.searches { replies := [.rows [], .rows []] }).1[2]? =
        some (.entity (.ok none)) ∧
      (Sample.session.runAll (Sample.searches.drop 2) { replies := [.rows []] }).1[0]? =
        some (.entity (.ok none)) := by
  obtain ⟨run, alone, without, replaced⟩ := Sample.session.runAll_calls Sample.searches Sample.busy
  have silent : Sample.session.executes (.find "Ghost" {}) = none := rfl
  have shorter := without [] (.find "Ghost" {}) Sample.searches.tail rfl silent
  have other := replaced 0 (.rows []) 2 (by decide)
  have last := alone (Sample.searches.drop 2) { replies := [.rows []] } 2 0 rfl rfl
  refine ⟨_, _, run, ?_, ?_, ?_⟩
  · rw [run] at shorter
    exact shorter
  · rw [run] at other
    exact other
  · rw [run] at last
    exact last.symm

end NestedQuery
