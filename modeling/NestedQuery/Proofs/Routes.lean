import Mathlib.Data.List.Induction
import NestedQuery.Files.Tree
import NestedQuery.Proofs.Plan
import NestedQuery.Proofs.Words

set_option autoImplicit false

namespace NestedQuery

namespace Path

theorem steps_eq_iff {path : String} {given : List String} : steps path = given ↔
    given ≠ [] ∧ (∀ step ∈ given, '/' ∉ step.toList) ∧ path = "/".intercalate given :=
  Text.map_pieces_eq_iff

theorem steps_ne_nil (path : String) : steps path ≠ [] := (steps_eq_iff.1 rfl).1

theorem not_mem_step {path step : String} (mem : step ∈ steps path) : '/' ∉ step.toList :=
  (steps_eq_iff.1 rfl).2.1 step mem

theorem steps_append_slash (front back : String) :
    steps (front ++ "/" ++ back) = steps front ++ steps back := by
  obtain ⟨someFront, apart, whole⟩ := steps_eq_iff.1 (Eq.refl (steps front))
  obtain ⟨someBack, apart', whole'⟩ := steps_eq_iff.1 (Eq.refl (steps back))
  rw [steps_eq_iff, String.intercalate_append_of_ne_nil someFront someBack, ← whole, ← whole']
  exact ⟨by simp [someFront], List.forall_mem_append.2 ⟨apart, apart'⟩, rfl⟩

theorem isAbsolute_iff {path : String} :
    isAbsolute path = true ↔ ∃ rest, rest ≠ [] ∧ steps path = "" :: rest := by
  unfold isAbsolute steps
  cases path.toList with
  | nil => simp [Text.pieces]
  | cons c text =>
    by_cases slash : c = '/'
    · simp [slash, Text.pieces, Text.pieces_ne_nil]
    · obtain ⟨piece, others, -, split⟩ := Text.pieces_cons_of_ne slash text
      simp [slash, split, String.ext_iff]

def names (path : String) : List String := (steps path).filter fun step => !isIdle step

def route (directory : List String) (path : String) : List String :=
  (if isAbsolute path then [] else directory) ++ names path

theorem names_empty : names "" = [] := rfl

theorem names_append_slash (front back : String) :
    names (front ++ "/" ++ back) = names front ++ names back := by
  rw [names, steps_append_slash, List.filter_append]
  rfl

theorem isAbsolute_append {front : String} (someChar : front.isEmpty = false) (back : String) :
    isAbsolute (front ++ back) = isAbsolute front := by
  have someChar : front.toList ≠ [] := by simpa using someChar
  obtain ⟨c, rest, shape⟩ := List.exists_cons_of_ne_nil someChar
  simp [isAbsolute, shape]

theorem route_empty (directory : List String) : route directory "" = directory := by
  simp [route, names_empty, isAbsolute]

theorem route_of_isAbsolute {path : String} (absolute : isAbsolute path = true)
    (directory : List String) : route directory path = names path := by
  simp [route, absolute]

theorem route_of_relative {path : String} (relative : isAbsolute path = false)
    (directory : List String) : route directory path = directory ++ names path := by
  simp [route, relative]

theorem route_eq_iff {directory other : List String} {path : String} :
    route directory path = route other path ↔ isAbsolute path = true ∨ directory = other := by
  cases absolute : isAbsolute path <;> simp [route, absolute]

theorem names_slash (front : String) : names (front ++ "/") = names front := by
  have split := names_append_slash front ""
  rwa [String.append_empty, names_empty, List.append_nil] at split

theorem route_slash {front : String} (someChar : front.isEmpty = false) (start : List String) :
    route start (front ++ "/") = route start front := by
  rw [route, isAbsolute_append someChar, names_slash]
  rfl

theorem route_slash_append (start : List String) (front back : String) :
    route start (front ++ "/" ++ back) = route start (front ++ "/") ++ names back := by
  have someChar : (front ++ "/").isEmpty = false := by simp
  rw [route, route, isAbsolute_append someChar, names_append_slash, names_slash,
    List.append_assoc]

theorem endsInSlash_iff {path : String} :
    endsInSlash path = true ↔ ∃ front, path = front ++ "/" := by
  rw [endsInSlash, beq_iff_eq, List.getLast?_eq_some_iff]
  constructor
  · rintro ⟨front, shape⟩
    exact ⟨String.ofList front, by rw [← String.toList_inj, shape]; simp⟩
  · rintro ⟨front, rfl⟩
    exact ⟨front.toList, by simp⟩

theorem route_join (start : List String) (directory path : String) :
    route start (join directory path) = route (route start directory) path := by
  unfold join
  split
  next absolute => rw [route_of_isAbsolute absolute, route_of_isAbsolute absolute]
  next relative =>
    rw [Bool.not_eq_true] at relative
    rw [route_of_relative relative]
    by_cases empty : directory = ""
    · subst empty
      rw [route_empty]
      simpa using route_of_relative relative start
    · have someChar : directory.isEmpty = false := by simpa using empty
      split
      next ends =>
        rw [someChar, Bool.false_or, endsInSlash_iff] at ends
        obtain ⟨front, rfl⟩ := ends
        exact route_slash_append start front path
      next openEnd => rw [route_slash_append, route_slash someChar]

theorem steps_step {step : String} (apart : '/' ∉ step.toList) : steps step = [step] :=
  steps_eq_iff.2 ⟨by simp, by simpa using apart, by simp⟩

theorem route_step {step : String} (idle : isIdle step = false) (apart : '/' ∉ step.toList)
    (directory : List String) : route directory step = directory ++ [step] := by
  have relative : isAbsolute step = false := by
    rw [Bool.eq_false_iff, Ne, isAbsolute_iff, steps_step apart]
    simp +contextual [eq_comm]
  simp [route_of_relative relative, names, steps_step apart, idle]

theorem route_foldl_join {given : List String} (idle : ∀ step ∈ given, isIdle step = false)
    (apart : ∀ step ∈ given, '/' ∉ step.toList) (start : List String) (root : String) :
    route start (given.foldl join root) = route start root ++ given := by
  induction given generalizing root with
  | nil => simp
  | cons step rest ih =>
    rw [List.forall_mem_cons] at idle apart
    rw [List.foldl_cons, ih idle.2 apart.2, route_join, route_step idle.1 apart.1,
      List.append_assoc, List.singleton_append]

theorem route_root (start : List String) {root : String} (rooted : root = "/" ∨ root = "//") :
    route start root = [] := by
  rcases rooted with rfl | rfl <;> rfl

theorem route_foldl_names (start : List String) (root path : String) :
    route start ((names path).foldl join root) = route start root ++ names path := by
  apply route_foldl_join
  · simp [names]
  · intro step mem
    exact not_mem_step (List.mem_filter.1 mem).1

theorem route_absolute (start : List String) (directory : String) {path : String}
    (given : path ≠ "") :
    route start (absolute directory path) = route (route start directory) path := by
  have ends (named : String) :
      route start (if endsInSlash path then join named "" else named) = route start named := by
    split
    · rw [route_join, route_empty]
    · rfl
  rw [absolute, if_neg (by simpa using given), ends]
  cases fromRoot : isAbsolute path with
  | false => rw [route_of_relative fromRoot, ← route_foldl_names]; rfl
  | true =>
    rw [route_of_isAbsolute fromRoot]
    refine (route_foldl_names start _ path).trans ?_
    rw [route_root, List.nil_append]
    rw [if_neg (by simp)]
    split <;> simp

theorem isAbsolute_of_steps {path first : String} {rest : List String}
    (split : steps path = first :: rest) : isAbsolute path = true ↔ first = "" ∧ rest ≠ [] := by
  rw [isAbsolute_iff, split]
  simp [and_comm]

theorem dropIdleEnd_append (front : List String) (step : String) :
    dropIdleEnd (front ++ [step]) = if isIdle step then dropIdleEnd front else front ++ [step] := by
  unfold dropIdleEnd
  rw [List.reverse_append, List.reverse_singleton, List.singleton_append, List.dropWhile_cons]
  split <;> simp

theorem filter_dropIdleEnd (given : List String) :
    (dropIdleEnd given).filter (fun step => !isIdle step) =
      given.filter fun step => !isIdle step := by
  induction given using List.reverseRecOn with
  | nil => rfl
  | append_singleton front step ih =>
    rw [dropIdleEnd_append]
    split
    next idle => simp [ih, idle]
    · rfl

theorem dropIdleEnd_ends (given : List String) : dropIdleEnd given = [] ∨
    ∃ front last, dropIdleEnd given = front ++ [last] ∧ isIdle last = false := by
  induction given using List.reverseRecOn with
  | nil => exact .inl rfl
  | append_singleton front step ih =>
    rw [dropIdleEnd_append]
    split
    · exact ih
    next leads => exact .inr ⟨front, step, rfl, by simpa using leads⟩

theorem mem_of_mem_dropIdleEnd {given : List String} {step : String}
    (mem : step ∈ dropIdleEnd given) : step ∈ given := by
  unfold dropIdleEnd at mem
  simpa using (List.dropWhile_sublist _).mem (List.mem_reverse.1 mem)

theorem route_of_steps {path first : String} {rest : List String}
    (split : steps path = first :: rest) (directory : List String) :
    route directory path = (if first = "" ∧ rest ≠ [] then [] else directory) ++
      (first :: rest).filter fun step => !isIdle step := by
  rw [route, names, split]
  simp only [isAbsolute_of_steps split]

theorem parent_of_steps {path first last : String} {rest front : List String}
    (split : steps path = first :: rest) (shape : dropIdleEnd rest = front ++ [last]) :
    parent path = if first = "" ∧ dropIdleEnd front = [] then "/"
      else "/".intercalate (first :: dropIdleEnd front) := by
  unfold parent
  rw [split]
  dsimp only
  split
  next nothing => simp [nothing] at shape
  next rest' someStep =>
    rw [shape] at someStep
    rw [← someStep, List.dropLast_concat]
    split
    next => simp_all
    next inside => rw [if_neg (by simpa using inside)]

theorem route_parent {path : String} (leads : names path ≠ []) (directory : List String) :
    route directory (parent path) = (route directory path).dropLast := by
  obtain ⟨first, rest, split⟩ := List.exists_cons_of_ne_nil (steps_ne_nil path)
  have whole := route_of_steps split directory
  rcases dropIdleEnd_ends rest with nothing | ⟨front, last, shape, lastLeads⟩
  · -- The name is its first step.
    have firstLeads : isIdle first = false := by
      rw [names, split, List.filter_cons, ← filter_dropIdleEnd rest, nothing] at leads
      simpa using leads
    have relative : first ≠ "" := by
      rintro rfl
      exact absurd firstLeads (by decide)
    have none : parent path = "" := by simp [parent, split, nothing]
    rw [whole, none, route_empty, List.filter_cons, ← filter_dropIdleEnd rest, nothing]
    simp [relative, firstLeads]
  · have kept : (first :: rest).filter (fun step => !isIdle step) =
        (first :: dropIdleEnd front).filter (fun step => !isIdle step) ++ [last] := by
      rw [List.filter_cons, List.filter_cons, ← filter_dropIdleEnd rest, shape,
        filter_dropIdleEnd front, List.filter_append]
      split <;> simp [lastLeads]
    have someRest : rest ≠ [] := by
      rintro rfl
      simp [dropIdleEnd] at shape
    rw [parent_of_steps split shape, whole, kept, ← List.append_assoc, List.dropLast_concat]
    by_cases root : first = "" ∧ dropIdleEnd front = []
    · rw [if_pos root, route_root directory (.inl rfl), root.1, root.2, if_pos ⟨rfl, someRest⟩]
      rfl
    · have outer : steps ("/".intercalate (first :: dropIdleEnd front)) =
          first :: dropIdleEnd front := by
        refine steps_eq_iff.2 ⟨by simp, ?_, rfl⟩
        intro step mem
        have within : step ∈ first :: rest := by
          refine List.mem_cons.2 ((List.mem_cons.1 mem).imp_right fun mem => ?_)
          apply mem_of_mem_dropIdleEnd
          rw [shape]
          exact List.mem_append_left _ (mem_of_mem_dropIdleEnd mem)
        exact not_mem_step (split ▸ within)
      have fromRoot : first = "" ∧ dropIdleEnd front ≠ [] ↔ first = "" ∧ rest ≠ [] :=
        ⟨fun both => ⟨both.1, someRest⟩, fun both => ⟨both.1, fun none => root ⟨both.1, none⟩⟩⟩
      rw [if_neg root, route_of_steps outer]
      simp only [fromRoot]

end Path

namespace Tree

variable {tree : Tree}

structure Sound (tree : Tree) : Prop where
  directory : tree.node? tree.workingDirectory = some .directory
  named : ∀ step ∈ tree.workingDirectory, Path.isIdle step = false ∧ step ≠ ".." ∧
    '/' ∉ step.toList ∧ step.utf8ByteSize ≤ longestStep
  apart : ∀ entry ∈ tree.nodes, entry.2 ≠ .directory →
    ∀ listed ∈ tree.workingDirectory :: tree.nodes.map Prod.fst, entry.1 <+: listed →
      listed = entry.1

instance (tree : Tree) : Decidable tree.Sound :=
  decidable_of_iff (_ ∧ _ ∧ _)
    ⟨fun ⟨directory, named, apart⟩ => ⟨directory, named, apart⟩,
      fun ⟨directory, named, apart⟩ => ⟨directory, named, apart⟩⟩

def walk (tree : Tree) (route : List String) : Except FileFault (List String) :=
  route.foldlM tree.step []

theorem step_eq_ok {position next : List String} {step : String} :
    tree.step position step = .ok next ↔ tree.node? position = some .directory ∧
      (Path.isIdle step = true ∧ next = position ∨
        Path.isIdle step = false ∧ step = ".." ∧ next = position.dropLast ∨
        Path.isIdle step = false ∧ step ≠ ".." ∧ step.utf8ByteSize ≤ longestStep ∧
          (tree.node? (position ++ [step])).isSome ∧ next = position ++ [step]) := by
  unfold Tree.step
  split
  next closed => simp [closed]
  next isOpen =>
    rw [not_not] at isOpen
    grind

theorem node?_isSome_iff {position : List String} : (tree.node? position).isSome ↔
    ∃ listed ∈ tree.workingDirectory :: tree.nodes.map Prod.fst, position <+: listed := by
  unfold node?
  split
  next entry found =>
    have here : entry.1 = position := by simpa using List.find?_some found
    have listed : entry.1 ∈ tree.nodes.map Prod.fst :=
      List.mem_map_of_mem (List.mem_of_find?_eq_some found)
    exact iff_of_true rfl ⟨entry.1, List.mem_cons_of_mem _ listed, here ▸ List.prefix_refl _⟩
  next =>
    simp only [← List.isPrefixOf_iff_prefix, ← List.any_eq_true]
    split
    next within => exact iff_of_true rfl within
    next without => exact iff_of_false Bool.false_ne_true without

namespace Sound

theorem nothing_below (sound : tree.Sound) {position : List String} {text : String}
    (file : tree.node? position = some (.file text)) (step : String) :
    tree.node? (position ++ [step]) = none := by
  unfold node? at file
  split at file
  next entry found =>
    have here : entry.1 = position := by simpa using List.find?_some found
    have kind : entry.2 = .file text := by simpa using file
    by_contra present
    obtain ⟨listed, mem, within⟩ := node?_isSome_iff.1 (Option.isSome_iff_ne_none.2 present)
    have same := sound.apart entry (List.mem_of_find?_eq_some found) (by simp [kind]) listed mem
      (here ▸ (List.prefix_append _ _).trans within)
    have length := within.length_le
    rw [same, here, List.length_append, List.length_singleton] at length
    omega
  next => split at file <;> cases file

theorem directory_above (sound : tree.Sound) {position : List String} {step : String}
    (present : (tree.node? (position ++ [step])).isSome) :
    tree.node? position = some .directory := by
  obtain ⟨listed, mem, within⟩ := node?_isSome_iff.1 present
  have above : (tree.node? position).isSome :=
    node?_isSome_iff.2 ⟨listed, mem, (List.prefix_append position [step]).trans within⟩
  obtain ⟨node, found⟩ := Option.isSome_iff_exists.1 above
  cases node with
  | directory => exact found
  | file text => simp [sound.nothing_below found step] at present

theorem directory_dropLast (sound : tree.Sound) {position : List String}
    (directory : tree.node? position = some .directory) :
    tree.node? position.dropLast = some .directory := by
  rcases List.eq_nil_or_concat position with rfl | ⟨front, step, rfl⟩
  · exact directory
  · rw [List.concat_eq_append] at directory ⊢
    rw [List.dropLast_concat]
    exact sound.directory_above (Option.isSome_of_eq_some directory)

theorem root (sound : tree.Sound) : tree.node? [] = some .directory := by
  cases whole : tree.workingDirectory with
  | nil => exact whole ▸ sound.directory
  | cons step rest =>
    have present : (tree.node? ([] ++ [step])).isSome :=
      node?_isSome_iff.2 ⟨_, List.mem_cons_self, whole ▸ List.prefix_append [step] rest⟩
    exact sound.directory_above present

theorem walk_workingDirectory (sound : tree.Sound) :
    tree.walk tree.workingDirectory = .ok tree.workingDirectory := by
  suffices ∀ back front : List String, tree.workingDirectory = front ++ back →
      back.foldlM tree.step front = .ok tree.workingDirectory from this _ [] rfl
  intro back
  induction back with
  | nil =>
    intro front whole
    rw [whole, List.append_nil]
    rfl
  | cons step back ih =>
    intro front whole
    have next : tree.workingDirectory = (front ++ [step]) ++ back := by simpa using whole
    have present : (tree.node? (front ++ [step])).isSome :=
      node?_isSome_iff.2 ⟨_, List.mem_cons_self, next ▸ List.prefix_append _ _⟩
    obtain ⟨leads, down, -, short⟩ := sound.named step (by simp [whole])
    have stepped : tree.step front step = .ok (front ++ [step]) :=
      step_eq_ok.2 ⟨sound.directory_above present, .inr (.inr ⟨leads, down, short, present, rfl⟩)⟩
    rw [List.foldlM_cons, stepped]
    exact ih (front ++ [step]) next

end Sound

theorem foldlM_names {given : List String} {start position : List String}
    (led : given.foldlM tree.step start = .ok position) :
    (given.filter fun step => !Path.isIdle step).foldlM tree.step start = .ok position := by
  induction given generalizing start with
  | nil => exact led
  | cons step rest ih =>
    rw [List.foldlM_cons, bind_eq_ok] at led
    obtain ⟨next, stepped, led⟩ := led
    cases idle : Path.isIdle step with
    | true =>
      have stays : next = start := by simpa [idle] using (step_eq_ok.1 stepped).2
      subst stays
      simpa [idle] using ih led
    | false =>
      rw [List.filter_cons_of_pos (by simp [idle]), List.foldlM_cons, stepped]
      exact ih led

theorem Sound.walk_route (sound : tree.Sound) {path : String} {position : List String}
    (located : tree.locate path = .ok position) :
    tree.walk (Path.route tree.workingDirectory path) = .ok position := by
  have led : (Path.steps path).foldlM tree.step (tree.start path) = .ok position := by
    unfold locate at located
    split at located
    · cases located
    split at located
    · cases located
    split at located
    · cases located
    · exact located
  have started : tree.walk (if Path.isAbsolute path then [] else tree.workingDirectory) =
      .ok (tree.start path) := by
    unfold start
    split
    · rfl
    · exact sound.walk_workingDirectory
  unfold walk at started ⊢
  rw [Path.route, List.foldlM_append, started]
  exact foldlM_names led

theorem Sound.names_of_file (sound : tree.Sound) {path text : String} {position : List String}
    (located : tree.locate path = .ok position) (file : tree.node? position = some (.file text)) :
    Path.names path ≠ [] := by
  intro none
  have led := sound.walk_route located
  rw [Path.route, none, List.append_nil] at led
  split at led
  · cases led
    simp [sound.root] at file
  · rw [sound.walk_workingDirectory] at led
    cases led
    simp [sound.directory] at file

theorem Sound.walk_dropLast (sound : tree.Sound) {route : List String} {position : List String}
    {text : String} (someStep : route ≠ []) (led : tree.walk route = .ok position)
    (file : tree.node? position = some (.file text)) :
    tree.walk route.dropLast = .ok position.dropLast := by
  obtain ⟨front, last, rfl⟩ := (List.eq_nil_or_concat route).resolve_left someStep
  rw [List.concat_eq_append] at led ⊢
  rw [walk, List.foldlM_append, bind_eq_ok] at led
  obtain ⟨holder, led, stepped⟩ := led
  rw [List.foldlM_cons, bind_eq_ok] at stepped
  obtain ⟨next, stepped, ⟨⟩⟩ := stepped
  rw [List.dropLast_concat]
  obtain ⟨directory, ⟨-, rfl⟩ | ⟨-, -, rfl⟩ | ⟨-, -, -, -, rfl⟩⟩ := step_eq_ok.1 stepped
  · simp [directory] at file
  · simp [sound.directory_dropLast directory] at file
  · rw [List.dropLast_concat]
    exact led

theorem Sound.route_workingDirectory (sound : tree.Sound) (start : List String) :
    Path.route start (absoluteName tree.workingDirectory) = tree.workingDirectory := by
  cases whole : tree.workingDirectory with
  | nil => exact Path.route_root start (.inl rfl)
  | cons step rest =>
    have named := sound.named
    rw [whole] at named
    have split : Path.steps (absoluteName (step :: rest)) = "" :: step :: rest := by
      refine Path.steps_eq_iff.2 ⟨by simp, ?_, ?_⟩
      · exact List.forall_mem_cons.2 ⟨by simp, fun step mem => (named step mem).2.2.1⟩
      · rw [String.intercalate_cons_of_ne_nil (by simp)]
        simp [absoluteName]
    have leads : (step :: rest).filter (fun step => !Path.isIdle step) = step :: rest :=
      List.filter_eq_self.2 fun step mem => by simp [(named step mem).1]
    rw [Path.route_of_steps split, if_pos ⟨rfl, by simp⟩, List.filter_cons_of_neg (by decide),
      leads]
    rfl

end Tree

end NestedQuery
