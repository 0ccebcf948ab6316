import NestedQuery.Compile
import NestedQuery.Materialize

set_option autoImplicit false

/-!
Finding entities: compile the filter, run the statement, materialize the rows. What runs the
statements is a list of replies, one for each statement in turn.
-/

namespace NestedQuery

inductive Reply
  | rows (rows : List Row)
  | error (error : Error)

def Reply.failure (message : String) (code : Option String) : Reply :=
  .error (.execution message code)

structure Execution where
  sql : String
  parameters : List Json

structure Channel where
  replies : List Reply
  executed : List Execution := []

def Channel.execute (channel : Channel) (sql : String) : Except Error (List Row) × Channel :=
  -- Past the last reply a statement returns no rows.
  let executed := channel.executed ++ [⟨sql, []⟩]
  match channel.replies with
  | [] => (.ok [], ⟨[], executed⟩)
  | .rows rows :: rest => (.ok rows, ⟨rest, executed⟩)
  | .error error :: rest => (.error error, ⟨rest, executed⟩)

structure Session where
  schema : Schema
  adapter : Adapter

namespace Session

def compile (session : Session) (entity : String) (filter : Filter) : Except Error String :=
  NestedQuery.compile session.schema session.adapter entity filter {}

def find (session : Session) (entity : String) (filter : Filter) :
    StateM Channel (Except Error (List Entity)) := fun channel =>
  match session.compile entity filter with
  | .error error => (.error error, channel)
  | .ok sql =>
    let (reply, channel) := channel.execute sql
    (reply.bind (materialize session.schema entity filter), channel)

def findOne (session : Session) (entity : String) (filter : Filter) :
    StateM Channel (Except Error (Option Entity)) := do
  return (← session.find entity (filter.limitedTo 1)).map List.head?

def byId (session : Session) (entity : String) (id : Literal) (filter : Filter) : Filter :=
  let condition := Where.eq (session.schema.idField entity) id
  filter.withCondition <| match filter.condition with
    | some existing => .all [condition, existing]
    | none => condition

def findById (session : Session) (entity : String) (id : Literal) (filter : Filter) :
    StateM Channel (Except Error (Option Entity)) :=
  session.findOne entity (session.byId entity id filter)

end Session

end NestedQuery
