import NestedQuery.Config.Resolve
import NestedQuery.Proofs.Routes

set_option autoImplicit false

namespace NestedQuery

namespace Tree

variable {ε α β : Type} {tree : Tree}

def Looks (tree : Tree) (action : ExceptT ε (StateM Tree) α) (answer : Except ε α) : Prop :=
  action.run tree = (answer, tree)

theorem Looks.bind {action : ExceptT ε (StateM Tree) α} {answer : Except ε α}
    {f : α → ExceptT ε (StateM Tree) β} {g : α → Except ε β}
    (looks : tree.Looks action answer) (others : ∀ a, tree.Looks (f a) (g a)) :
    tree.Looks (action >>= f) (answer >>= g) := by
  have step : (action >>= f).run tree = (match (action.run tree).1 with
    | .ok a => (f a).run
    | .error e => pure (.error e)) (action.run tree).2 := rfl
  unfold Looks at looks
  rw [Looks, step, looks]
  cases answer with
  | ok a => exact others a
  | error e => rfl

theorem read_eq_ok {path text : String} : tree.read path = .ok text ↔
    ∃ position, tree.locate path = .ok position ∧ tree.node? position = some (.file text) := by
  simp only [Tree.read, bind_eq_ok]
  refine exists_congr fun position => and_congr_right fun _ => ?_
  cases tree.node? position with
  | none => simp
  | some node => cases node <;> simp

end Tree

namespace Config

variable {tree : Tree} {path : Option String} {overrides : Overrides}

def textOf (tree : Tree) (path : String) : Except ConfigFault String :=
  match tree.read path with
  | .ok text => .ok text
  | .error .absent => .error (.notFound path)
  | .error fault => .error (.unreadable path fault)

def loaded (tree : Tree) (path : String) : Except ConfigFault Config :=
  textOf tree path >>= ofToml path

theorem looks_load (tree : Tree) (path : String) :
    tree.Looks (load Tree.workspace path) (loaded tree path) := by
  refine Tree.Looks.bind ?_ fun _ => rfl
  have step : (readFile Tree.workspace path (.notFound path)).run tree =
      (match tree.read path with
      | .ok text => (pure text : ExceptT ConfigFault (StateM Tree) String)
      | .error .absent => throw (ConfigFault.notFound path)
      | .error fault => throw (ConfigFault.unreadable path fault)).run tree := rfl
  rw [Tree.Looks, step, textOf]
  cases tree.read path with
  | ok text => rfl
  | error fault => cases fault <;> rfl

/-- What holds without the command line, the steps from the root to the directory that its names
start from, and where these steps lead. -/
inductive Base (tree : Tree) (path : Option String) (overrides : Overrides) :
    Config → List String → List String → Prop
  | file {text : String} {position : List String} {written : Config}
      (located : tree.locate (path.getD defaultFile) = .ok position)
      (holds : tree.node? position = some (.file text))
      (decoded : Toml.decode ofDocument text = .ok written) :
      Base tree path overrides written
        (Path.route tree.workingDirectory (path.getD defaultFile)).dropLast position.dropLast
  | alone {schema : String} (unnamed : path = none) (absent : tree.present defaultFile = false)
      (given : overrides.schema = some schema) :
      Base tree path overrides { schema } tree.workingDirectory tree.workingDirectory

theorem loaded_eq_ok {name : String} {config : Config} : loaded tree name = .ok config ↔
    ∃ position text written, tree.locate name = .ok position ∧
      tree.node? position = some (.file text) ∧ Toml.decode ofDocument text = .ok written ∧
      config = { written with root := Path.parent name } := by
  constructor
  · intro success
    obtain ⟨text, read, decoded⟩ := bind_eq_ok.1 success
    have read : tree.read name = .ok text := by
      unfold textOf at read
      split at read <;> simp_all
    obtain ⟨position, located, holds⟩ := Tree.read_eq_ok.1 read
    unfold ofToml at decoded
    split at decoded
    next written parsed =>
      cases decoded
      exact ⟨position, text, written, located, holds, parsed, rfl⟩
    · cases decoded
  · rintro ⟨position, text, written, located, holds, decoded, rfl⟩
    have read : tree.read name = .ok text := Tree.read_eq_ok.2 ⟨position, located, holds⟩
    refine bind_eq_ok.2 ⟨text, by rw [textOf, read], ?_⟩
    rw [ofToml, decoded]

theorem looks_resolve {answer : Except ConfigFault Config}
    (looks : tree.Looks (base Tree.workspace path overrides) answer) :
    tree.Looks (resolve Tree.workspace path overrides) (answer >>= fun start =>
      .ok (start.override (Tree.absoluteName tree.workingDirectory) overrides)) :=
  looks.bind fun _ => rfl

theorem looks_default (tree : Tree) (overrides : Overrides) :
    tree.Looks (base Tree.workspace none overrides)
      (if tree.present defaultFile then loaded tree defaultFile
      else (overrides.schema.map fun schema => ({ schema } : Config)).elim
        (.error (.notFound defaultFile)) .ok) := by
  change (if tree.present defaultFile = true then _ else _ :
    ExceptT ConfigFault (StateM Tree) Config).run tree = _
  cases tree.present defaultFile with
  | true => exact looks_load tree defaultFile
  | false =>
    simp only [Bool.false_eq_true, if_false]
    cases overrides.schema <;> rfl

theorem resolve_eq_ok {config : Config} {after : Tree}
    (resolved : (resolve Tree.workspace path overrides).run tree = (.ok config, after)) :
    ∃ start : Config, config = start.override (Tree.absoluteName tree.workingDirectory) overrides ∧
      (loaded tree (path.getD defaultFile) = .ok start ∨
        path = none ∧ tree.present defaultFile = false ∧
          ∃ schema, overrides.schema = some schema ∧ start = { schema }) := by
  have finish (answer : Except ConfigFault Config)
      (looks : tree.Looks (base Tree.workspace path overrides) answer) :
      ∃ start : Config, answer = .ok start ∧
        config = start.override (Tree.absoluteName tree.workingDirectory) overrides := by
    obtain ⟨start, success, final⟩ :=
      bind_eq_ok.1 (congrArg Prod.fst ((looks_resolve looks).symm.trans resolved))
    exact ⟨start, success, (Except.ok.inj final).symm⟩
  cases path with
  | some path =>
    obtain ⟨start, success, final⟩ := finish _ (looks_load tree path)
    exact ⟨start, final, .inl success⟩
  | none =>
    obtain ⟨start, success, final⟩ := finish _ (looks_default tree overrides)
    refine ⟨start, final, ?_⟩
    split at success
    · exact .inl success
    next absent =>
      cases given : overrides.schema with
      | none => simp [given] at success
      | some schema =>
        rw [given] at success
        exact .inr ⟨rfl, by simpa using absent, schema, rfl, (Except.ok.inj success).symm⟩

theorem resolve_base (sound : tree.Sound) {config : Config} {after : Tree}
    (resolved : (resolve Tree.workspace path overrides).run tree = (.ok config, after)) :
    ∃ written directory place root, Base tree path overrides written directory place ∧
      tree.walk directory = .ok place ∧
      Path.route tree.workingDirectory root = directory ∧
      config = { written with root }.override (Tree.absoluteName tree.workingDirectory)
        overrides := by
  obtain ⟨start, final, success | ⟨unnamed, absent, schema, given, rfl⟩⟩ := resolve_eq_ok resolved
  · obtain ⟨position, text, written, located, holds, decoded, rfl⟩ := loaded_eq_ok.1 success
    have leads := sound.names_of_file located holds
    have someStep : Path.route tree.workingDirectory (path.getD defaultFile) ≠ [] := by
      simp [Path.route, leads]
    exact ⟨written, _, _, _, .file located holds decoded,
      sound.walk_dropLast someStep (sound.walk_route located) holds,
      Path.route_parent leads _, final⟩
  · exact ⟨{ schema }, _, _, "", .alone unnamed absent given, sound.walk_workingDirectory,
      Path.route_empty _, final⟩

theorem route_schemaPath_override (sound : tree.Sound) (config : Config) (overrides : Overrides)
    {directory : List String} (leads : Path.route tree.workingDirectory config.root = directory) :
    Path.route tree.workingDirectory
        (config.override (Tree.absoluteName tree.workingDirectory) overrides).schemaPath =
      match overrides.schema with
      | none => Path.route directory config.schema
      | some schema =>
        Path.route (if schema = "" then directory else tree.workingDirectory) schema := by
  rw [schemaPath, Path.route_join]
  simp only [Config.override]
  rw [leads]
  cases overrides.schema with
  | none => rfl
  | some schema =>
    rw [Option.map_some, Option.getD_some]
    by_cases empty : schema = ""
    · simp [empty, Path.absolute]
    · rw [Path.route_absolute directory _ empty, sound.route_workingDirectory]
      simp [empty]

theorem databaseLocation_leads {config : Config} {database : String}
    (given : config.database = some database) (start : List String) :
    ∃ location, config.databaseLocation = .ok location ∧
      if config.dialect = .sqlite ∧ database ≠ inMemory then
        Path.route start location = Path.route (Path.route start config.root) database
      else location = database := by
  rw [databaseLocation, given]
  dsimp only
  split
  · exact ⟨_, rfl, Path.route_join ..⟩
  · exact ⟨database, rfl, rfl⟩

/-- Each value is the command line's if it has one. A schema from the command line is meant from
the working directory; a written schema, and any database file, from the directory of the
configuration. All that is no file stays as it is. -/
theorem resolve_paths (sound : tree.Sound) {config : Config} {after : Tree}
    (resolved : (resolve Tree.workspace path overrides).run tree = (.ok config, after)) :
    ∃ written directory place, Base tree path overrides written directory place ∧
      tree.walk directory = .ok place ∧
      config.dialect = overrides.dialect.getD written.dialect ∧
      config.database = overrides.database.or written.database ∧
      Path.route tree.workingDirectory config.schemaPath =
        (match overrides.schema with
        | none => Path.route directory written.schema
        | some schema =>
          Path.route (if schema = "" then directory else tree.workingDirectory) schema) ∧
      ∀ database, config.database = some database →
        ∃ location, config.databaseLocation = .ok location ∧
          if config.dialect = .sqlite ∧ database ≠ inMemory then
            Path.route tree.workingDirectory location = Path.route directory database ∧
            (Path.route tree.workingDirectory location =
                Path.route tree.workingDirectory database ↔
              Path.isAbsolute database = true ∨ directory = tree.workingDirectory)
          else location = database := by
  obtain ⟨written, directory, place, root, base, led, leads, final⟩ := resolve_base sound resolved
  have starts : Path.route tree.workingDirectory config.root = directory := by rwa [final]
  refine ⟨written, directory, place, base, led, by rw [final]; rfl, by rw [final]; rfl, ?_, ?_⟩
  · rw [final]
    exact route_schemaPath_override sound { written with root } overrides leads
  · intro database given
    obtain ⟨location, success, means⟩ := databaseLocation_leads given tree.workingDirectory
    refine ⟨location, success, ?_⟩
    rw [starts] at means
    split at means
    next file =>
      rw [if_pos file, means]
      exact ⟨rfl, Path.route_eq_iff⟩
    next other => rwa [if_neg other]

namespace Sample

def project : Tree where
  workingDirectory := ["w"]
  nodes := [(["w", "p", "c.toml"], .file "schema = \"s.toml\"")]

end Sample

theorem resolve_project :
    (resolve Tree.workspace (some "p/c.toml") { database := some "dev.db" }).run Sample.project =
      (.ok { schema := "s.toml", database := some "dev.db", root := "p" }, Sample.project) := by
  have located : Sample.project.locate "p/c.toml" = .ok ["w", "p", "c.toml"] := by decide
  have holds : Sample.project.node? ["w", "p", "c.toml"] =
      some (.file "schema = \"s.toml\"") := by decide
  have line : Toml.tokens "schema = \"s.toml\"" =
      some [.word "schema".toList, .blank [' '], .equals, .blank [' '], .text "s.toml" false] := by
    decide +kernel
  have document : Toml.read "schema = \"s.toml\"" =
      some (.table [("schema", .text "s.toml")]) := by
    rw [Toml.read, line]
    rfl
  have decoded : Toml.decode ofDocument "schema = \"s.toml\"" = .ok { schema := "s.toml" } := by
    rw [Toml.decode, document]
    rfl
  have root : "p" = Path.parent "p/c.toml" := by decide
  have success : loaded Sample.project "p/c.toml" = .ok { schema := "s.toml", root := "p" } := by
    refine loaded_eq_ok.2 ⟨["w", "p", "c.toml"], _, _, located, holds, decoded, ?_⟩
    rw [← root]
  have looks : Sample.project.Looks
      (base Tree.workspace (some "p/c.toml") { database := some "dev.db" })
      (loaded Sample.project "p/c.toml") := looks_load _ _
  rw [success] at looks
  exact looks_resolve looks

theorem resolve_paths_project :
    Sample.project.Sound ∧
    (resolve Tree.workspace (some "p/c.toml") { database := some "dev.db" }).run Sample.project =
      (.ok { schema := "s.toml", database := some "dev.db", root := "p" }, Sample.project) ∧
    ∃ written directory place,
      Base Sample.project (some "p/c.toml") { database := some "dev.db" } written directory place ∧
      Path.route ["w"] "p/s.toml" = Path.route directory written.schema := by
  have sound : Sample.project.Sound := by decide
  obtain ⟨written, directory, place, base, -, -, -, leads, -⟩ := resolve_paths sound resolve_project
  exact ⟨sound, resolve_project, written, directory, place, base, leads⟩

/-- A database file from the command line is not meant from the working directory. -/
theorem database_beside_configuration :
    (resolve Tree.workspace (some "p/c.toml") { database := some "dev.db" }).run Sample.project =
      (.ok { schema := "s.toml", database := some "dev.db", root := "p" }, Sample.project) ∧
    Config.databaseLocation { schema := "s.toml", database := some "dev.db", root := "p" } =
      .ok "p/dev.db" ∧
    Path.route ["w"] "p/dev.db" = ["w", "p", "dev.db"] ∧
    Path.route ["w"] "dev.db" = ["w", "dev.db"] := by
  have joined : Path.join "p" "dev.db" = "p/dev.db" := by decide
  have file : "dev.db" ≠ inMemory := by decide
  refine ⟨resolve_project, ?_, by decide, by decide⟩
  simp [databaseLocation, file, joined]

end Config

end NestedQuery
