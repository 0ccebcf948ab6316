import NestedQuery.Json.Token

set_option autoImplicit false

namespace NestedQuery.Json

inductive Frame
  | array (items : List Json)
  | object (members : List (String × Json))
  | member (members : List (String × Json)) (name : String)

inductive Awaiting
  | value
  | itemOrClose
  | name
  | nameOrClose
  | colon (name : String)
  | separator
  | nothing (result : Json)

def deliver (value : Json) : List Frame → List Frame × Awaiting
  | [] => ([], .nothing value)
  | .array items :: outer => (.array (value :: items) :: outer, .separator)
  | .member members name :: outer => (.object (Keyed.put name value members) :: outer, .separator)
  | .object members :: outer => (.object members :: outer, .separator)

def maxDepth : Nat := 127

def openFrame (frame : Frame) (awaiting : Awaiting) (frames : List Frame) :
    Except Fault (List Frame × Awaiting) :=
  if frames.length < maxDepth then .ok (frame :: frames, awaiting) else .error .malformed

def stepValue (frames : List Frame) : Token → Except Fault (List Frame × Awaiting)
  | .text s => .ok (deliver (.string s) frames)
  | .atom value => .ok (deliver value frames)
  | .openArray => openFrame (.array []) .itemOrClose frames
  | .openObject => openFrame (.object []) .nameOrClose frames
  | .brokenText fault => .error fault
  | .brokenAtom fault => .error fault
  | _ => .error .malformed

def stepName (frames : List Frame) : Token → Except Fault (List Frame × Awaiting)
  | .text s => .ok (frames, .colon s)
  | .brokenText fault => .error fault
  | _ => .error .malformed

def close : List Frame → Token → Except Fault (List Frame × Awaiting)
  | .array items :: outer, .closeArray => .ok (deliver (.array items.reverse) outer)
  | .object members :: outer, .closeObject => .ok (deliver (.object members) outer)
  | _, _ => .error .malformed

def step : List Frame × Awaiting → Token → Except Fault (List Frame × Awaiting)
  | (frames, .value), token => stepValue frames token
  | (frames, .itemOrClose), .closeArray => close frames .closeArray
  | (frames, .itemOrClose), token => stepValue frames token
  | (frames, .name), token => stepName frames token
  | (frames, .nameOrClose), .closeObject => close frames .closeObject
  | (frames, .nameOrClose), token => stepName frames token
  | (.object members :: outer, .colon name), .colon => .ok (.member members name :: outer, .value)
  | (_, .colon _), _ => .error .malformed
  | (.array items :: outer, .separator), .comma => .ok (.array items :: outer, .value)
  | (.object members :: outer, .separator), .comma => .ok (.object members :: outer, .name)
  | (frames, .separator), token => close frames token
  | (_, .nothing _), _ => .error .malformed

def read (text : String) : Except Fault Json :=
  match (tokens text.toList).foldlM step ([], .value) with
  | .ok (_, .nothing value) => .ok value
  | .ok _ => .error .ended
  | .error fault => .error fault

end NestedQuery.Json
