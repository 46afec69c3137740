import ClientGen.CommandLine.Run
import ClientGen.Proofs.Files.Growth

/-!
# Passes do not concern each other

A run goes through the versions of the API and, for each one whose documents can be read, through
the languages. Each pass has its own copy of the model, and writes below a directory of its own. So
what becomes of it does not depend on the others, as long as the documents are read in the turn of a
version as they were at the beginning. They are if they are not in the output directory, and if no
path of a missing document leads through a directory that a pass makes. No two passes write
different files at one place, so that afterwards the tree has the files of all passes, and otherwise
what it had.

## Main definitions

* `ClientGen.Config.loadFrom` — the model of a version, as it is loaded from a tree.
* `ClientGen.Config.outcomes`, `ClientGen.Config.texts` — what becomes of a version of the API and
  the files that are written for it, as far as the documents in a tree say.
* `ClientGen.PassResult.isRefused` — that a file could not be written.
* `ClientGen.Report.AccountsFor` — that a report tells how much has failed.

## Main results

* `ClientGen.Config.run_runVersion` — what a run does for one version.
* `ClientGen.Config.isRefused_of_mem_outcomes` — only the writing of files is refused.
* `ClientGen.Config.run_runVersions_of_isWritten` — versions in their turns do what they would do at
  the beginning.
* `ClientGen.Config.run_isolated` — a run, its files and its report.
* `ClientGen.Config.run_not_isolated` — a version that is loaded just because an earlier one has
  been written. -/

set_option autoImplicit false

namespace ClientGen

open FileTree (AddsFiles GrowsTo)

/-! ## Refusals -/

/-- Whether a problem is that a file or a directory could not be written. -/
def Problem.isRefusal (problem : Problem) : Bool :=
  Text.beginsWith "Failed to write " problem.message ||
    Text.beginsWith "Failed to create output directory " problem.message

lemma beginsWith_append (beginning rest : String) :
    Text.beginsWith beginning (beginning ++ rest) = true := by
  simp [Text.beginsWith]

/-- A problem whose message begins in another way is no refusal. -/
lemma Problem.isRefusal_eq_false {problem : Problem} {own rest : String}
    (hmessage : problem.message = own ++ rest)
    (hdiffers : ∀ beginning ∈ ["Failed to write ", "Failed to create output directory "],
      ¬own.toList <+: beginning.toList ∧ ¬beginning.toList <+: own.toList) :
    problem.isRefusal = false := by
  have hnot : ∀ beginning ∈ ["Failed to write ", "Failed to create output directory "],
      Text.beginsWith beginning problem.message = false := by
    intro beginning hbeginning
    obtain ⟨h, h'⟩ := hdiffers beginning hbeginning
    rw [Text.beginsWith, Bool.eq_false_iff, ne_eq, List.isPrefixOf_iff_prefix, hmessage,
      String.toList_append]
    intro hpre
    rcases List.prefix_or_prefix_of_prefix hpre (List.prefix_append _ _) with hbegins | hbegins
    · exact h' hbegins
    · exact h hbegins
  rw [isRefusal, hnot _ (by decide), hnot _ (by decide), Bool.or_false]

/-- Failures of generation are no refusals. -/
lemma Problem.isRefusal_ofFailure (failure : Failure) :
    (ofFailure failure).isRefusal = false := by
  cases failure with
  | config format fault =>
    cases format <;> exact isRefusal_eq_false String.append_assoc (by decide)
  | file error => exact isRefusal_eq_false rfl (by decide)
  | spec error => exact isRefusal_eq_false rfl (by decide)
  | backend error => exact isRefusal_eq_false rfl (by decide)
  | setting message => exact isRefusal_eq_false rfl (by decide)
  | document message => exact isRefusal_eq_false rfl (by decide)

namespace PassResult

/-- Whether something has gone wrong. -/
def isFailed : PassResult → Bool
  | .failed _ _ => true
  | _ => false

/-- Whether a file or a directory could not be written. -/
def isRefused : PassResult → Bool
  | .failed _ problem => problem.isRefusal
  | _ => false

end PassResult

/-- A computation on trees goes on from what it has computed and from the tree that is left. -/
lemma run_bind_of {α β : Type} {tree new : FileTree} {first : StateM FileTree α}
    {next : α → StateM FileTree β} {value : α} (h : first.run tree = (value, new)) :
    (first >>= next).run tree = (next value).run new := by
  rw [StateT.run_bind, h]
  rfl

/-- Reading a file leaves the tree as it is. -/
lemma run_read {tree : FileTree} (path : String) :
    (FileAccess.read path : StateM FileTree (Except FileError String)).run tree =
      (tree.read path, tree) :=
  rfl

namespace Config

variable {config : Config} {tree old new : FileTree} {version : Option String}
  {model : Model} {language : Language} {languages : List Language} {name : String}
  {made : FilePlace → Prop} {directory : String}

/-! ## Loading -/

/-- The paths of the documents of a version of the API. -/
def documentPaths (config : Config) (version : Option String) : List String :=
  forVersion config.specPath version ::
    (config.swaggerPath.map fun path => forVersion path version).toList

/-- A document that is read from a tree for a purpose. -/
def documentFrom (tree : FileTree) (purpose path : String) : Except Problem Document :=
  Except.mapError
    (fun failure =>
      (Problem.ofFailure failure).during ("Failed to load " ++ purpose ++ " document " ++ path))
    (match tree.read path with
    | .error error => .error (.file error)
    | .ok text => Document.ofFile path text)

/-- The model of a version of the API, as it is loaded from a tree, if that comes to an end: the
document is read, what its conversion has lost is restored, and the operations that are not wanted
are left out. -/
def loadFrom (config : Config) (tree : FileTree) (version : Option String) :
    Except Problem (Option Model) :=
  (documentFrom tree "API" (forVersion config.specPath version)).bind fun document =>
    match config.swaggerPath with
    | none => .ok (config.modelOf document)
    | some path => (documentFrom tree "Swagger" (forVersion path version)).map fun older =>
        config.modelOf ⟨(Conversion.recover older.root document.root).2⟩

lemma run_loadDocument (purpose path : String) :
    (loadDocument purpose path : StateM FileTree (Except Problem Document)).run tree =
      (documentFrom tree purpose path, tree) := by
  rw [loadDocument, Document.load, documentFrom, bind_assoc, run_bind_of (run_read path)]
  cases tree.read path <;> rfl

/-- Loading leaves the tree as it is. -/
lemma run_loadModel :
    (config.loadModel version : StateM FileTree (Except Problem (Option Model))).run tree =
      (config.loadFrom tree version, tree) := by
  rw [loadModel, run_bind_of (run_loadDocument _ _), loadFrom]
  cases documentFrom tree "API" (forVersion config.specPath version) with
  | error problem => rfl
  | ok document =>
    cases config.swaggerPath with
    | none => rfl
    | some path =>
      dsimp only
      rw [run_bind_of (run_loadDocument _ _)]
      rfl

/-- A model only depends on what the paths of the documents read. -/
lemma loadFrom_congr (h : ∀ path ∈ config.documentPaths version, new.read path = old.read path) :
    config.loadFrom new version = config.loadFrom old version := by
  obtain ⟨hspec, hswagger⟩ := List.forall_mem_cons.mp h
  rw [loadFrom, loadFrom, documentFrom, documentFrom, hspec]
  cases hpath : config.swaggerPath with
  | none => rfl
  | some path =>
    have hread : new.read (forVersion path version) = old.read (forVersion path version) :=
      hswagger _ (by simp [hpath])
    simp only [documentFrom, hread]

/-- Failures of loading are no refusals. -/
lemma isRefusal_of_loadFrom {problem : Problem}
    (h : config.loadFrom tree version = .error problem) : problem.isRefusal = false := by
  have hdocument {purpose path : String} {problem : Problem}
      (h : documentFrom tree purpose path = .error problem) : problem.isRefusal = false := by
    rw [documentFrom] at h
    generalize (match tree.read path with
      | .error error => .error (.file error)
      | .ok text => Document.ofFile path text : Except Failure Document) = result at h
    cases result with
    | ok document => exact absurd h nofun
    | error failure =>
      obtain rfl := Except.error.inj h
      have hmessage : "Failed to load " ++ purpose ++ " document " ++ path =
          "Failed to load " ++ (purpose ++ (" document " ++ path)) :=
        String.append_assoc.trans String.append_assoc
      exact Problem.isRefusal_eq_false hmessage (by decide)
  rw [loadFrom] at h
  cases hspec : documentFrom tree "API" (forVersion config.specPath version) with
  | error problem =>
    rw [hspec] at h
    obtain rfl := Except.error.inj h
    exact hdocument hspec
  | ok document =>
    rw [hspec] at h
    cases hpath : config.swaggerPath with
    | none =>
      simp only [Except.bind, hpath] at h
      exact absurd h nofun
    | some path =>
      simp only [Except.bind, hpath] at h
      cases hswagger : documentFrom tree "Swagger" (forVersion path version) with
      | ok older => rw [hswagger] at h; exact absurd h nofun
      | error problem =>
        rw [hswagger] at h
        obtain rfl := Except.error.inj h
        exact hdocument hswagger

/-! ## Writing -/

variable {files : List (String × String)} {result : Except Problem Unit}

/-- Writing files either writes them all or is refused. -/
lemma growsTo_of_run_writeFiles
    (h : (writeFiles files : StateM FileTree (Except Problem Unit)).run tree = (result, new)) :
    (result = .ok () ∧ GrowsTo made files tree new) ∨
      ∃ problem, result = .error problem ∧ problem.isRefusal = true := by
  induction files generalizing tree with
  | nil =>
    obtain ⟨rfl, rfl⟩ := Prod.mk.inj h
    exact .inl ⟨rfl, .refl⟩
  | cons file rest ih =>
    obtain ⟨path, text⟩ := file
    have hstep : (FileAccess.write path text : StateM FileTree (Except FileError Unit)).run tree =
        FileTree.step (·.write path text) tree := rfl
    cases hwrite : tree.write path text with
    | error error =>
      rw [FileTree.step, hwrite] at hstep
      rw [writeFiles, run_bind_of hstep] at h
      obtain ⟨rfl, -⟩ := Prod.mk.inj h
      exact .inr ⟨_, rfl, by simp [Problem.isRefusal, Problem.during, beginsWith_append]⟩
    | ok mid =>
      rw [FileTree.step, hwrite] at hstep
      rw [writeFiles, run_bind_of hstep] at h
      exact (ih h).imp_left fun ⟨hresult, hgrows⟩ =>
        ⟨hresult, (FileTree.growsTo_of_write hwrite).trans hgrows⟩

/-- Writing files to a directory, which is made for them, either writes them all or is refused. -/
lemma growsTo_of_run_writePass (hmade : ∀ place ∈ tree.wayTo directory, made place)
    (h : (writePass directory files : StateM FileTree (Except Problem Unit)).run tree =
      (result, new)) :
    (result = .ok () ∧ GrowsTo made files tree new) ∨
      ∃ problem, result = .error problem ∧ problem.isRefusal = true := by
  have hstep : (FileAccess.createDirectories directory :
      StateM FileTree (Except FileError Unit)).run tree =
        FileTree.step (·.createDirectories directory) tree := rfl
  cases hdirectory : tree.createDirectories directory with
  | error error =>
    rw [FileTree.step, hdirectory] at hstep
    rw [writePass, run_bind_of hstep] at h
    obtain ⟨rfl, -⟩ := Prod.mk.inj h
    exact .inr ⟨_, rfl, by simp [Problem.isRefusal, Problem.during, beginsWith_append]⟩
  | ok mid =>
    rw [FileTree.step, hdirectory] at hstep
    rw [writePass, run_bind_of hstep] at h
    exact (growsTo_of_run_writeFiles h).imp_left fun ⟨hresult, hgrows⟩ =>
      ⟨hresult, (FileTree.growsTo_of_createDirectories hmade hdirectory).trans hgrows⟩

/-! ## Passes -/

/-- What becomes of a pass over a model whose files can be written. -/
def passOutcome (config : Config) (model : Model) (version : String) (language : Language) :
    PassResult :=
  match config.passFiles model version language with
  | .error failure => .failed (language.name ++ " " ++ version) (.ofFailure failure)
  | .ok _ => .written language version (config.passDirectory language version)

/-- The files of a pass over a model, of which there are none if it fails. -/
def passTexts (config : Config) (model : Model) (version : String) (language : Language) :
    List (String × String) :=
  match config.passFiles model version language with
  | .error _ => []
  | .ok files => files

/-- A pass that is not refused writes its files. -/
lemma run_runPass {result : PassResult}
    (hmade : ∀ place ∈ tree.wayTo (config.passDirectory language name), made place)
    (h : (config.runPass model name language : StateM FileTree PassResult).run tree = (result, new))
    (hwrites : result.isRefused = false) :
    result = config.passOutcome model name language ∧
      GrowsTo made (config.passTexts model name language) tree new := by
  rw [runPass] at h
  cases hfiles : config.passFiles model name language with
  | error failure =>
    simp only [passOutcome, passTexts, hfiles] at h ⊢
    obtain ⟨rfl, rfl⟩ := Prod.mk.inj h
    exact ⟨rfl, .refl⟩
  | ok files =>
    simp only [passOutcome, passTexts, hfiles] at h ⊢
    generalize hwrite : (writePass (config.passDirectory language name) files :
      StateM FileTree (Except Problem Unit)).run tree = written at h
    obtain ⟨written, mid⟩ := written
    rw [run_bind_of hwrite] at h
    rcases growsTo_of_run_writePass hmade hwrite with ⟨rfl, hgrows⟩ | ⟨problem, rfl, hrefusal⟩
    · obtain ⟨rfl, rfl⟩ := Prod.mk.inj h
      exact ⟨rfl, hgrows⟩
    · obtain ⟨rfl, -⟩ := Prod.mk.inj h
      rw [PassResult.isRefused, hrefusal] at hwrites
      exact absurd hwrites.symm Bool.false_ne_true

/-- Passes for several languages that are not refused write their files.

**Proof sketch.** Induction on the languages. Where directories are made does not change when files
are written, since paths lead to the same places. -/
lemma run_mapM_runPass {results : List PassResult}
    (hmade : ∀ language ∈ languages, ∀ place ∈ tree.wayTo (config.passDirectory language name),
      made place)
    (h : (languages.mapM (config.runPass model name) : StateM FileTree (List PassResult)).run tree =
      (results, new))
    (hwrites : ∀ result ∈ results, result.isRefused = false) :
    results = languages.map (config.passOutcome model name) ∧
      GrowsTo made (languages.flatMap (config.passTexts model name)) tree new := by
  induction languages generalizing tree results with
  | nil =>
    obtain ⟨rfl, rfl⟩ := Prod.mk.inj h
    exact ⟨rfl, .refl⟩
  | cons language rest ih =>
    rcases hfirst : (config.runPass model name language : StateM FileTree PassResult).run tree with
      ⟨result, mid⟩
    rcases hothers : (rest.mapM (config.runPass model name) :
      StateM FileTree (List PassResult)).run mid with ⟨others, last⟩
    rw [List.mapM_cons, run_bind_of hfirst, run_bind_of hothers] at h
    obtain ⟨rfl, rfl⟩ := Prod.mk.inj h
    obtain ⟨hmadeFirst, hmadeRest⟩ := List.forall_mem_cons.mp hmade
    obtain ⟨hwritesFirst, hwritesRest⟩ := List.forall_mem_cons.mp hwrites
    obtain ⟨rfl, hgrows⟩ := run_runPass hmadeFirst hfirst hwritesFirst
    obtain ⟨rfl, hgrows'⟩ := ih
      (fun language hlanguage place hplace => hmadeRest language hlanguage place
        (FileTree.wayTo_congr hgrows.workingDirectory ▸ hplace)) hothers hwritesRest
    exact ⟨rfl, hgrows.trans hgrows'⟩

/-! ## Versions -/

/-- What becomes of a version of the API, as far as its documents in a tree say. -/
def outcomes (config : Config) (languages : List Language) (tree : FileTree)
    (version : Option String) : List PassResult :=
  match config.loadFrom tree version with
  | .error problem => [.failed (version.getD "default") problem]
  | .ok none => [.endless]
  | .ok (some model) => languages.map (config.passOutcome model (versionName version model))

/-- The files for a version of the API, as far as its documents in a tree say. -/
def texts (config : Config) (languages : List Language) (tree : FileTree)
    (version : Option String) : List (String × String) :=
  match config.loadFrom tree version with
  | .error _ => []
  | .ok none => []
  | .ok (some model) => languages.flatMap (config.passTexts model (versionName version model))

/-- What becomes of a version depends on what is loaded only. -/
lemma outcomes_congr (h : config.loadFrom new version = config.loadFrom old version) :
    config.outcomes languages new version = config.outcomes languages old version := by
  rw [outcomes, outcomes, h]

/-- So do the files for it. -/
lemma texts_congr (h : config.loadFrom new version = config.loadFrom old version) :
    config.texts languages new version = config.texts languages old version := by
  rw [texts, texts, h]

/-- All passes for a version of the API do what its documents say. -/
theorem run_runVersion {results : List PassResult}
    (hmade : ∀ model, config.loadFrom tree version = .ok (some model) → ∀ language ∈ languages,
      ∀ place ∈ tree.wayTo (config.passDirectory language (versionName version model)), made place)
    (h : (config.runVersion languages version : StateM FileTree (List PassResult)).run tree =
      (results, new))
    (hwrites : ∀ result ∈ results, result.isRefused = false) :
    results = config.outcomes languages tree version ∧
      GrowsTo made (config.texts languages tree version) tree new := by
  rw [runVersion, run_bind_of run_loadModel] at h
  rcases hmodel : config.loadFrom tree version with problem | model | model
  · simp only [outcomes, texts, hmodel] at h ⊢
    obtain ⟨rfl, rfl⟩ := Prod.mk.inj h
    exact ⟨rfl, .refl⟩
  · simp only [outcomes, texts, hmodel] at h ⊢
    obtain ⟨rfl, rfl⟩ := Prod.mk.inj h
    exact ⟨rfl, .refl⟩
  · simp only [outcomes, texts, hmodel] at h ⊢
    exact run_mapM_runPass (hmade model hmodel) h hwrites

/-- Nothing but the writing of files is refused. -/
lemma isRefused_of_mem_outcomes {result : PassResult}
    (h : result ∈ config.outcomes languages tree version) : result.isRefused = false := by
  rw [outcomes] at h
  rcases hmodel : config.loadFrom tree version with problem | model | model <;> rw [hmodel] at h
  · obtain rfl := List.mem_singleton.mp h
    exact isRefusal_of_loadFrom hmodel
  · obtain rfl := List.mem_singleton.mp h
    rfl
  · obtain ⟨language, -, rfl⟩ := List.mem_map.mp h
    rw [passOutcome]
    split
    next failure _ => exact Problem.isRefusal_ofFailure failure
    next => rfl

/-- If loading a version comes to an end, so do its passes. -/
lemma isEndless_of_mem_outcomes {result : PassResult}
    (hends : config.loadFrom tree version ≠ .ok none)
    (h : result ∈ config.outcomes languages tree version) : result.isEndless = false := by
  rw [outcomes] at h
  rcases hmodel : config.loadFrom tree version with problem | model | model <;> rw [hmodel] at h
  · obtain rfl := List.mem_singleton.mp h
    rfl
  · exact absurd hmodel hends
  · obtain ⟨language, -, rfl⟩ := List.mem_map.mp h
    rw [passOutcome]
    split <;> rfl

/-! ## Places of files -/

/-- The name of a file of a pass. -/
def fileName (language : Language) (name : String) : String :=
  name ++ "." ++ language.backend.extension

/-- The names of the files of a pass, without their extension. -/
def fileNames : List String := ["methods", "models", "streams"]

lemma isName_language (language : Language) : FilePath.IsName language.name := by
  cases language <;> decide

lemma isName_fileName (language : Language) (hname : name ∈ fileNames) :
    FilePath.IsName (fileName language name) := by
  have hall : ∀ name ∈ fileNames, ∀ language ∈ Language.all,
      FilePath.IsName (fileName language name) := by
    decide
  exact hall name hname language (by cases language <;> decide)

/-- Files of different languages or kinds have different names. -/
lemma fileName_injective {language' : Language} {name' : String} (hname : name ∈ fileNames)
    (hname' : name' ∈ fileNames) (h : fileName language name = fileName language' name') :
    language = language' ∧ name = name' := by
  have hall : ∀ name ∈ fileNames, ∀ name' ∈ fileNames, ∀ language ∈ Language.all,
      ∀ language' ∈ Language.all, fileName language name = fileName language' name' →
        language = language' ∧ name = name' := by
    decide
  exact hall name hname name' hname' language (by cases language <;> decide) language'
    (by cases language' <;> decide) h

/-- The text of the file of a pass that has a name. -/
def fileText? (files : Files) (name : String) : Option String :=
  if name = "methods" then some files.methods
  else if name = "models" then some files.models
  else files.streams

/-- The files of a pass have their names in its directory and the texts that are generated. -/
lemma exists_of_mem_passTexts {file : String × String}
    (h : file ∈ config.passTexts model name language) :
    ∃ files kind, (model.generate language.backend name config.packageName).1 = .ok files ∧
      kind ∈ fileNames ∧
      file.1 = FilePath.join (config.passDirectory language name) (fileName language kind) ∧
      fileText? files kind = some file.2 := by
  rw [passTexts, passFiles] at h
  cases hgenerate : (model.generate language.backend name config.packageName).1 with
  | error failure =>
    rw [hgenerate] at h
    exact absurd h List.not_mem_nil
  | ok files =>
    rw [hgenerate] at h
    refine ⟨files, ?_⟩
    rcases List.mem_append.mp h with hboth | hstreams
    · rcases List.mem_cons.mp hboth with rfl | hmodels
      · exact ⟨"methods", rfl, by decide, rfl, rfl⟩
      · obtain rfl := List.mem_singleton.mp hmodels
        exact ⟨"models", rfl, by decide, rfl, rfl⟩
    · obtain ⟨text, htext, rfl⟩ := Option.map_eq_some_iff.mp (Option.mem_toList.mp hstreams)
      exact ⟨"streams", rfl, by decide, rfl, htext⟩

/-- The files for a version of the API are those of the passes over its model. -/
lemma mem_texts_iff {file : String × String} : file ∈ config.texts languages tree version ↔
    ∃ model, config.loadFrom tree version = .ok (some model) ∧ ∃ language ∈ languages,
      file ∈ config.passTexts model (versionName version model) language := by
  rw [texts]
  rcases config.loadFrom tree version with problem | model | model <;> simp

/-- The place of the directory of a pass for a version that is a name. -/
lemma placeOf_passDirectory (h : FilePath.IsName name) :
    tree.placeOf (config.passDirectory language name) =
      tree.placeOf config.outputDirectory ++ [language.name, name] := by
  rw [passDirectory, FileTree.placeOf_join_name h,
    FileTree.placeOf_join_name (isName_language language), List.append_assoc]
  rfl

/-- The directory of a pass for a version that is a name is made within the output directory, and
on the way to it. -/
lemma isAround_of_mem_wayTo_passDirectory {place : FilePlace} (h : FilePath.IsName name)
    (hplace : place ∈ tree.wayTo (config.passDirectory language name)) :
    tree.IsAround config.outputDirectory place := by
  rw [passDirectory, FileTree.wayTo_join_name h,
    FileTree.wayTo_join_name (isName_language language),
    FileTree.placeOf_join_name (isName_language language)] at hplace
  simp only [List.mem_append, List.mem_singleton] at hplace
  rcases hplace with (hway | rfl) | rfl
  · exact .inr hway
  · exact .inl (List.prefix_append _ _)
  · exact .inl (by rw [List.append_assoc]; exact List.prefix_append _ _)

/-- The files of a pass for a version that is a name are within the output directory. -/
lemma placeOf_of_mem_passTexts {file : String × String} (h : FilePath.IsName name)
    (hfile : file ∈ config.passTexts model name language) :
    tree.placeOf config.outputDirectory <+: tree.placeOf file.1 := by
  obtain ⟨files, kind, -, hkind, hpath, -⟩ := exists_of_mem_passTexts hfile
  rw [hpath, FileTree.placeOf_join_name (isName_fileName language hkind), placeOf_passDirectory h,
    List.append_assoc]
  exact List.prefix_append _ _

/-- The versions of the API are names, or there is the version of the document only. -/
lemma versions_cases (config : Config) : config.versions = [none] ∨
    ∀ version ∈ config.versions, ∃ name ∈ config.apiVersions, version = some name := by
  rw [versions]
  split
  next => exact .inl rfl
  next =>
    refine .inr fun version hversion => ?_
    obtain ⟨name, hname, rfl⟩ := List.mem_map.mp hversion
    exact ⟨name, hname, rfl⟩

/-- What becomes of all versions, as far as their documents in a tree say. -/
def allOutcomes (config : Config) (languages : List Language) (tree : FileTree) :
    List PassResult :=
  config.versions.flatMap (config.outcomes languages tree)

/-- The files for all versions, as far as their documents in a tree say. -/
def allTexts (config : Config) (languages : List Language) (tree : FileTree) :
    List (String × String) :=
  config.versions.flatMap (config.texts languages tree)

/-- No two passes write different texts at one place.

**Proof sketch.** The last part of a place tells the language and the kind of the file, the one
before it tells the version, and these determine the text. -/
lemma text_eq_of_placeOf_eq {first second : String × String}
    (hversions : ∀ name ∈ config.apiVersions, FilePath.IsName name)
    (hfirst : first ∈ config.allTexts languages tree)
    (hsecond : second ∈ config.allTexts languages tree)
    (hplace : tree.placeOf first.1 = tree.placeOf second.1) : first.2 = second.2 := by
  obtain ⟨version, hversion, hfirst⟩ := List.mem_flatMap.mp hfirst
  obtain ⟨version', hversion', hsecond⟩ := List.mem_flatMap.mp hsecond
  obtain ⟨model, hmodel, language, -, hfirst⟩ := mem_texts_iff.mp hfirst
  obtain ⟨model', hmodel', language', -, hsecond⟩ := mem_texts_iff.mp hsecond
  obtain ⟨files, kind, hfiles, hkind, hpath, htext⟩ := exists_of_mem_passTexts hfirst
  obtain ⟨files', kind', hfiles', hkind', hpath', htext'⟩ := exists_of_mem_passTexts hsecond
  rw [hpath, hpath', FileTree.placeOf_join_name (isName_fileName language hkind),
    FileTree.placeOf_join_name (isName_fileName language' hkind')] at hplace
  obtain ⟨hdirectory, hname⟩ := List.append_inj' hplace rfl
  obtain ⟨rfl, rfl⟩ := fileName_injective hkind hkind' (List.singleton_inj.mp hname)
  obtain rfl : version = version' := by
    rcases config.versions_cases with hnone | hsome
    · rw [hnone] at hversion hversion'
      rw [List.mem_singleton.mp hversion, List.mem_singleton.mp hversion']
    · obtain ⟨own, hown, rfl⟩ := hsome version hversion
      obtain ⟨own', hown', rfl⟩ := hsome version' hversion'
      rw [versionName, versionName, placeOf_passDirectory (hversions own hown),
        placeOf_passDirectory (hversions own' hown')] at hdirectory
      simpa using hdirectory
  obtain rfl := Option.some.inj (Except.ok.inj (hmodel.symm.trans hmodel'))
  obtain rfl := Except.ok.inj (hfiles.symm.trans hfiles')
  exact Option.some.inj (htext.symm.trans htext')

/-! ## Runs -/

/-- A tree that something has been written to below the output directory. -/
def IsWritten (config : Config) (tree before : FileTree) : Prop :=
  ∃ files, GrowsTo (tree.IsAround config.outputDirectory) files tree before ∧
    ∀ file ∈ files, tree.placeOf config.outputDirectory <+: tree.placeOf file.1

/-- The documents of a version are read as they were, whatever has been written below the output
directory: they are not in it, and those that are missing are not reached through something that is
made there. -/
lemma IsWritten.loadFrom_eq {before : FileTree} (hbefore : config.IsWritten tree before)
    (hdocuments : ∀ path ∈ config.documentPaths version,
      ¬tree.placeOf config.outputDirectory <+: tree.placeOf path)
    (hways : ∀ path ∈ config.documentPaths version, (∃ text, tree.read path = .ok text) ∨
      ¬tree.LeadsThroughMissing config.outputDirectory path) :
    config.loadFrom before version = config.loadFrom tree version := by
  obtain ⟨files, hgrown, hfiles⟩ := hbefore
  refine loadFrom_congr fun path hpath => hgrown.read_eq hfiles (hdocuments path hpath) ?_
  rcases hways path hpath with ⟨text, hread⟩ | hway
  · exact FileTree.not_leadsThroughMissing_of_read hread
  · exact hway

/-- The passes for a version that is a name write below the output directory.

**Proof sketch.** Making the directory of a pass makes directories in the output directory or on the
way to it. -/
lemma run_runVersion_of_isWritten {before : FileTree} {results : List PassResult}
    (h : FilePath.IsName name) (hbefore : config.IsWritten tree before)
    (hrun : (config.runVersion languages (some name) : StateM FileTree (List PassResult)).run before
      = (results, new))
    (hwrites : ∀ result ∈ results, result.isRefused = false) :
    results = config.outcomes languages before (some name) ∧
      GrowsTo (tree.IsAround config.outputDirectory) (config.texts languages before (some name))
        before new ∧ config.IsWritten tree new := by
  obtain ⟨files, hgrown, hfiles⟩ := hbefore
  have hmade : ∀ model, config.loadFrom before (some name) = .ok (some model) →
      ∀ language ∈ languages,
      ∀ place ∈ before.wayTo (config.passDirectory language (versionName (some name) model)),
        tree.IsAround config.outputDirectory place := by
    intro model _ language _ place hplace
    rw [FileTree.wayTo_congr hgrown.workingDirectory] at hplace
    exact isAround_of_mem_wayTo_passDirectory h hplace
  obtain ⟨hresults, hgrows⟩ := run_runVersion hmade hrun hwrites
  refine ⟨hresults, hgrows, _, hgrown.trans hgrows, fun file hfile => ?_⟩
  rcases List.mem_append.mp hfile with hfile | hfile
  · exact hfiles file hfile
  · obtain ⟨model, -, language, -, hfile⟩ := mem_texts_iff.mp hfile
    exact placeOf_of_mem_passTexts h hfile

/-- A run with one version is the run of that version. -/
lemma run_runVersions_singleton : (config.runVersions languages [version] :
    StateM FileTree (List PassResult)).run tree =
      (config.runVersion languages version : StateM FileTree (List PassResult)).run tree := by
  rcases hrun : (config.runVersion languages version : StateM FileTree (List PassResult)).run tree
    with ⟨results, new⟩
  rw [runVersions, run_bind_of hrun, runVersions]
  split
  · rfl
  · exact congrArg (·, new) (List.append_nil results)

/-- If loading a version does not come to an end, then no version after it has its turn. -/
lemma run_runVersions_of_endless {rest : List (Option String)}
    (h : config.loadFrom tree version = .ok none) :
    (config.runVersions languages (version :: rest) : StateM FileTree (List PassResult)).run tree =
      ([.endless], tree) := by
  have hversion : (config.runVersion languages version :
      StateM FileTree (List PassResult)).run tree = ([.endless], tree) := by
    rw [runVersion, run_bind_of run_loadModel, h]
    rfl
  rw [runVersions, run_bind_of hversion]
  rfl

/-- Versions in their turns do what they would do at the beginning.

**Proof sketch.** Induction on the versions. What has been written before the turn of a version is
below the output directory, so that the same is loaded for it, and its own files are written there,
too. -/
theorem run_runVersions_of_isWritten {versions : List (Option String)} {before : FileTree}
    {results : List PassResult}
    (hnames : ∀ version ∈ versions, ∃ name, FilePath.IsName name ∧ version = some name)
    (hloads : ∀ version ∈ versions, ∀ {before : FileTree}, config.IsWritten tree before →
      config.loadFrom before version = config.loadFrom tree version)
    (hends : ∀ version ∈ versions, config.loadFrom tree version ≠ .ok none)
    (hbefore : config.IsWritten tree before)
    (h : (config.runVersions languages versions : StateM FileTree (List PassResult)).run before =
      (results, new))
    (hwrites : ∀ result ∈ results, result.isRefused = false) :
    results = versions.flatMap (config.outcomes languages tree) ∧
      GrowsTo (tree.IsAround config.outputDirectory)
        (versions.flatMap (config.texts languages tree)) before new := by
  induction versions generalizing before results with
  | nil =>
    obtain ⟨rfl, rfl⟩ := Prod.mk.inj h
    exact ⟨rfl, .refl⟩
  | cons version rest ih =>
    obtain ⟨⟨name, hname, rfl⟩, hnamesRest⟩ := List.forall_mem_cons.mp hnames
    obtain ⟨hloadsFirst, hloadsRest⟩ := List.forall_mem_cons.mp hloads
    obtain ⟨hendsFirst, hendsRest⟩ := List.forall_mem_cons.mp hends
    have hload := hloadsFirst hbefore
    rcases hfirst : (config.runVersion languages (some name) :
      StateM FileTree (List PassResult)).run before with ⟨own, mid⟩
    rw [runVersions, run_bind_of hfirst] at h
    split at h
    next hendless =>
      obtain ⟨rfl, rfl⟩ := Prod.mk.inj h
      obtain ⟨hown, -⟩ := run_runVersion_of_isWritten hname hbefore hfirst hwrites
      obtain ⟨result, hresult, hendless⟩ := List.any_eq_true.mp hendless
      rw [hown, outcomes_congr hload] at hresult
      exact absurd ((isEndless_of_mem_outcomes hendsFirst hresult).symm.trans hendless)
        Bool.false_ne_true
    next =>
      rcases hothers : (config.runVersions languages rest :
        StateM FileTree (List PassResult)).run mid with ⟨others, last⟩
      rw [run_bind_of hothers] at h
      obtain ⟨rfl, rfl⟩ := Prod.mk.inj h
      obtain ⟨hwritesFirst, hwritesRest⟩ := List.forall_mem_append.mp hwrites
      obtain ⟨hown, hgrows, hmid⟩ := run_runVersion_of_isWritten hname hbefore hfirst hwritesFirst
      obtain ⟨rfl, hgrows'⟩ := ih hnamesRest hloadsRest hendsRest hmid hothers hwritesRest
      rw [outcomes_congr hload] at hown
      rw [texts_congr hload] at hgrows
      exact ⟨congrArg (· ++ _) hown, hgrows.trans hgrows'⟩

/-- All versions of a configuration do what they would do at the beginning. -/
theorem run_runVersions {results : List PassResult}
    (hversions : ∀ name ∈ config.apiVersions, FilePath.IsName name)
    (hloads : ∀ version ∈ config.versions, ∀ {before : FileTree}, config.IsWritten tree before →
      config.loadFrom before version = config.loadFrom tree version)
    (hends : ∀ version ∈ config.versions, config.loadFrom tree version ≠ .ok none)
    (h : (config.runVersions languages config.versions :
      StateM FileTree (List PassResult)).run tree = (results, new))
    (hwrites : ∀ result ∈ results, result.isRefused = false) :
    results = config.allOutcomes languages tree ∧
      ∃ made, GrowsTo made (config.allTexts languages tree) tree new := by
  rw [allOutcomes, allTexts]
  rcases config.versions_cases with hnone | hsome
  · rw [hnone, run_runVersions_singleton] at h
    rw [hnone, List.flatMap_singleton, List.flatMap_singleton]
    obtain ⟨hresults, hgrows⟩ := run_runVersion (fun _ _ _ _ _ _ => trivial) h hwrites
    exact ⟨hresults, fun _ => True, hgrows⟩
  · have hnames : ∀ version ∈ config.versions, ∃ name, FilePath.IsName name ∧
        version = some name := fun version hversion =>
      let ⟨name, hname, hsame⟩ := hsome version hversion
      ⟨name, hversions name hname, hsame⟩
    obtain ⟨hresults, hgrows⟩ := run_runVersions_of_isWritten hnames hloads hends
      ⟨[], .refl, fun file hfile => absurd hfile List.not_mem_nil⟩ h hwrites
    exact ⟨hresults, _, hgrows⟩

/-- What a run does to a tree. -/
def runIn (config : Config) (tree : FileTree) : Except Problem (List PassResult) × FileTree :=
  (config.run : StateM FileTree (Except Problem (List PassResult))).run tree

lemma runIn_of_error {failure : Failure} (h : config.targets = .error failure) :
    config.runIn tree = (.error (.ofFailure failure), tree) := by
  rw [runIn, run, h]
  rfl

lemma runIn_of_ok (h : config.targets = .ok languages) : config.runIn tree =
    (.ok ((config.runVersions languages config.versions :
      StateM FileTree (List PassResult)).run tree).1,
      ((config.runVersions languages config.versions :
        StateM FileTree (List PassResult)).run tree).2) := by
  rw [runIn, run, h]
  rfl

/-- The languages cannot be told just if there are none or one of them is unknown. -/
lemma targets_eq_error_iff : (∃ failure, config.targets = .error failure) ↔
    config.languages = [] ∨ ∃ name ∈ config.languages, Language.ofName? name = none := by
  rw [targets]
  by_cases h : config.languages = []
  · simp [h]
  · rw [if_neg (by simpa using h), Language.ofNames, exists_mapM_eq_error_iff, or_iff_right h]
    refine exists_congr fun name => and_congr_right fun _ => ?_
    cases Language.ofName? name <;> simp

end Config

/-! ## Reports -/

/-- A report on results ends well unless something has failed, of which it tells the number. -/
structure Report.AccountsFor (report : Report) (results : List PassResult) : Prop where
  exitCode_eq_zero_iff : report.exitCode = 0 ↔ ∀ result ∈ results, result.isFailed = false
  message {problem : Problem} (h : report.problem = some problem) : ∃ lines, problem.message =
    toString (results.countP (·.isFailed)) ++ " generation pass(es) failed:\n" ++ lines

lemma PassResult.length_filterMap_failure? {results : List PassResult} :
    (results.filterMap failure?).length = results.countP (·.isFailed) := by
  induction results with
  | nil => rfl
  | cons result rest ih =>
    cases result with
    | written language version directory => exact ih
    | endless => exact ih
    | failed subject problem =>
      have hcons : (failed subject problem :: rest).filterMap failure? =
          (subject ++ ": " ++ problem.line) :: rest.filterMap failure? := rfl
      rw [hcons, List.length_cons, ih, List.countP_cons_of_pos rfl]

/-- The report on passes accounts for their results, if all of them come to an end. -/
lemma Report.accountsFor {results : List PassResult} (lines : List String)
    (hends : ∀ result ∈ results, result.isEndless = false) :
    AccountsFor { lines, problem := PassResult.problem? results } results := by
  have hempty : (results.filterMap PassResult.failure?).isEmpty = true ↔
      ∀ result ∈ results, result.isFailed = false := by
    rw [List.isEmpty_iff_length_eq_zero, PassResult.length_filterMap_failure?, List.countP_eq_zero]
    simp
  have hproblem : PassResult.problem? results =
      if (results.filterMap PassResult.failure?).isEmpty then none
      else some ⟨toString (results.filterMap PassResult.failure?).length ++
        " generation pass(es) failed:\n" ++
          "\n".intercalate (results.filterMap PassResult.failure?), []⟩ := by
    rw [PassResult.problem?, if_neg]
    simpa using hends
  constructor
  · rw [← hempty, exitCode, hproblem]
    split <;> simp_all
  · intro problem h
    rw [hproblem] at h
    split at h
    next => exact absurd h nofun
    next =>
      obtain rfl := Option.some.inj h
      exact ⟨_, by rw [← PassResult.length_filterMap_failure?]⟩

/-- What a command does to a tree. -/
def Command.generateIn (options : GenerateOptions) (tree : FileTree) : Report × FileTree :=
  (runGenerate options : StateM FileTree Report).run tree

/-- The configuration that options ask for in a tree. -/
def GenerateOptions.configurationIn (options : GenerateOptions) (tree : FileTree) :
    Except Problem Config :=
  ((options.configuration : StateM FileTree (Except Problem Config)).run tree).1

namespace Command

variable {config : Config} {options : GenerateOptions} {tree final : FileTree}

/-- Finding the configuration leaves the tree as it is. -/
lemma run_configuration (h : options.configurationIn tree = .ok config) :
    (options.configuration : StateM FileTree (Except Problem Config)).run tree =
      (.ok config, tree) := by
  have hbase : ∀ options : GenerateOptions, ∃ result,
      (options.base : StateM FileTree (Except Problem Config)).run tree = (result, tree) := by
    intro options
    rw [GenerateOptions.base]
    cases options.config with
    | none => cases options.specPath <;> exact ⟨_, rfl⟩
    | some path =>
      dsimp only
      rw [Config.load, bind_assoc, run_bind_of (run_read path)]
      cases tree.read path <;> exact ⟨_, rfl⟩
  obtain ⟨result, hresult⟩ := hbase options
  rw [GenerateOptions.configurationIn, GenerateOptions.configuration, run_bind_of hresult] at h
  rw [GenerateOptions.configuration, run_bind_of hresult, ← h]
  rfl

/-- The command does what the run of its configuration does. -/
lemma generateIn_of_configurationIn (h : options.configurationIn tree = .ok config) :
    generateIn options tree =
      (match (config.runIn tree).1 with
      | .error problem => { problem := some problem }
      | .ok results =>
        { lines := results.filterMap (·.line?), problem := PassResult.problem? results },
      (config.runIn tree).2) := by
  rw [generateIn, runGenerate, run_bind_of (run_configuration h)]
  rcases hrun : (config.run : StateM FileTree (Except Problem (List PassResult))).run tree with
    ⟨result, new⟩
  dsimp only
  rw [Config.runIn, run_bind_of hrun, hrun]
  cases result <;> rfl

end Command

namespace Config

/-- The passes of a run do not concern each other, and all of them are accounted for, under three
conditions. The documents are not in the output directory. Each of them is there at the beginning,
or else its path leads through nothing that is missing and that a pass makes, see
`ClientGen.FileTree.LeadsThroughMissing`. And loading each version comes to an end, since otherwise
the later ones do not have their turn, see `ClientGen.Config.run_runVersions_of_endless`.

Without languages, or with one that is unknown, nothing is written. Otherwise, unless the writing of
a file is refused, the passes do what the documents at the beginning say. Afterwards the tree has
the files of all passes and what it had elsewhere, and the command ends well unless something has
failed, of which it tells the number.

**Proof sketch.** Each version is a step that writes below the output directory, so that the
documents of the next one are read as before. The files are added one after the other, but no two of
them have different texts at one place. -/
theorem run_isolated (config : Config) (tree : FileTree)
    (hversions : ∀ name ∈ config.apiVersions, FilePath.IsName name)
    (hdocuments : ∀ version ∈ config.versions, ∀ path ∈ config.documentPaths version,
      ¬tree.placeOf config.outputDirectory <+: tree.placeOf path)
    (hways : ∀ version ∈ config.versions, ∀ path ∈ config.documentPaths version,
      (∃ text, tree.read path = .ok text) ∨
        ¬tree.LeadsThroughMissing config.outputDirectory path)
    (hends : ∀ version ∈ config.versions, config.loadFrom tree version ≠ .ok none) :
    ((config.languages = [] ∨ ∃ name ∈ config.languages, Language.ofName? name = none) →
      ∃ problem, config.runIn tree = (.error problem, tree) ∧
        ∀ options : GenerateOptions, options.configurationIn tree = .ok config →
          Command.generateIn options tree = ({ problem := some problem }, tree)) ∧
    (¬(config.languages = [] ∨ ∃ name ∈ config.languages, Language.ofName? name = none) →
      ∃ languages results final, config.targets = .ok languages ∧
        config.runIn tree = (.ok results, final) ∧
        ((∀ result ∈ results, result.isRefused = false) ↔
          results = config.allOutcomes languages tree) ∧
        (results = config.allOutcomes languages tree →
          AddsFiles (config.allTexts languages tree) tree final ∧
          ∀ options : GenerateOptions, options.configurationIn tree = .ok config →
            ∃ report, Command.generateIn options tree = (report, final) ∧
              report.AccountsFor results)) := by
  rw [← targets_eq_error_iff]
  constructor
  · rintro ⟨failure, hfailure⟩
    refine ⟨_, runIn_of_error hfailure, fun options hoptions => ?_⟩
    rw [Command.generateIn_of_configurationIn hoptions, runIn_of_error hfailure]
  · intro hnot
    obtain ⟨languages, hlanguages⟩ : ∃ languages, config.targets = .ok languages := by
      cases htargets : config.targets with
      | error failure => exact absurd ⟨failure, htargets⟩ hnot
      | ok languages => exact ⟨languages, rfl⟩
    rcases hversion : (config.runVersions languages config.versions :
      StateM FileTree (List PassResult)).run tree with ⟨results, final⟩
    have hrun : config.runIn tree = (.ok results, final) := by
      rw [runIn_of_ok hlanguages, hversion]
    have hwritten (hwrites : ∀ result ∈ results, result.isRefused = false) :
        results = config.allOutcomes languages tree ∧
          ∃ made, GrowsTo made (config.allTexts languages tree) tree final :=
      run_runVersions hversions (fun version hversion _ hbefore =>
        hbefore.loadFrom_eq (hdocuments version hversion) (hways version hversion)) hends hversion
        hwrites
    have hrefused (hsame : results = config.allOutcomes languages tree) :
        ∀ result ∈ results, result.isRefused = false := by
      intro result hresult
      rw [hsame] at hresult
      obtain ⟨version, -, hresult⟩ := List.mem_flatMap.mp hresult
      exact isRefused_of_mem_outcomes hresult
    refine ⟨languages, results, final, hlanguages, hrun, ⟨fun hwrites => (hwritten hwrites).1,
      hrefused⟩, fun hsame => ?_⟩
    obtain ⟨-, made, hgrows⟩ := hwritten (hrefused hsame)
    refine ⟨hgrows.addsFiles fun file hfile file' hfile' =>
      text_eq_of_placeOf_eq hversions hfile hfile', fun options hoptions => ?_⟩
    rw [Command.generateIn_of_configurationIn hoptions, hrun]
    refine ⟨_, rfl, Report.accountsFor _ fun result hresult => ?_⟩
    rw [hsame] at hresult
    obtain ⟨version, hversion, hresult⟩ := List.mem_flatMap.mp hresult
    exact isEndless_of_mem_outcomes (hends version hversion) hresult

/-- Options for two versions of the API. -/
def twoVersions : GenerateOptions where
  specPath := some "\x7bversion\x7d.json"
  outputDirectory := some "sdk"
  languages := ["py"]
  apiVersions := ["v1", "v2"]

/-- The configuration that the options ask for. -/
def twoVersionsConfig : Config where
  specPath := "\x7bversion\x7d.json"
  outputDirectory := "sdk"
  languages := ["py"]
  apiVersions := ["v1", "v2"]

/-- A tree with an empty document for the first version only. -/
def firstDocument : FileTree where
  entries := [(["v1.json"], .file "\x7b\x7d")]

/-- All files can be written, the first version can be loaded and the second one cannot, and no
document is below the output directory or reached through it. -/
lemma firstDocument_writes :
    (match (twoVersionsConfig.runIn firstDocument).1 with
      | .ok results => results.all fun result => !result.isRefused
      | .error _ => true) = true ∧
    (match twoVersionsConfig.loadFrom firstDocument (some "v1") with
      | .ok model => model.isSome
      | .error _ => false) = true ∧
    (twoVersionsConfig.loadFrom firstDocument (some "v2")).toOption.isNone = true ∧
    ∀ version ∈ twoVersionsConfig.versions, ∀ path ∈ twoVersionsConfig.documentPaths version,
      ¬firstDocument.placeOf "sdk" <+: firstDocument.placeOf path ∧
        ¬firstDocument.LeadsThroughMissing "sdk" path := by
  decide +kernel

/-- If the document of the second version is missing, the command fails, but the files of the first
version are written. -/
theorem run_isolated_firstDocument : ∃ report final model,
    Command.generateIn twoVersions firstDocument = (report, final) ∧ report.exitCode ≠ 0 ∧
      twoVersionsConfig.loadFrom firstDocument (some "v1") = .ok (some model) ∧
        ∀ file ∈ twoVersionsConfig.passTexts model "v1" .python,
          final.get? (firstDocument.placeOf file.1) = some (.file file.2) := by
  obtain ⟨hwrites, hfirst, hsecond, hdocuments⟩ := firstDocument_writes
  obtain ⟨model, hmodel⟩ : ∃ model,
      twoVersionsConfig.loadFrom firstDocument (some "v1") = .ok (some model) := by
    rcases hload : twoVersionsConfig.loadFrom firstDocument (some "v1") with problem | model | model
    · rw [hload] at hfirst; exact absurd hfirst nofun
    · rw [hload] at hfirst; exact absurd hfirst nofun
    · exact ⟨model, rfl⟩
  obtain ⟨problem, hproblem⟩ : ∃ problem,
      twoVersionsConfig.loadFrom firstDocument (some "v2") = .error problem := by
    rcases hload : twoVersionsConfig.loadFrom firstDocument (some "v2") with problem | model
    · exact ⟨problem, rfl⟩
    · rw [hload] at hsecond; exact absurd hsecond nofun
  have hends : ∀ version ∈ twoVersionsConfig.versions,
      twoVersionsConfig.loadFrom firstDocument version ≠ .ok none :=
    List.forall_mem_cons.mpr ⟨by rw [hmodel]; exact nofun,
      List.forall_mem_singleton.mpr (by rw [hproblem]; exact nofun)⟩
  obtain ⟨languages, results, final, hlanguages, hrun, hrefused, hall⟩ :=
    (run_isolated twoVersionsConfig firstDocument (by decide)
      (fun version hversion path hpath => (hdocuments version hversion path hpath).1)
      (fun version hversion path hpath => .inr (hdocuments version hversion path hpath).2)
      hends).2 (by decide +kernel)
  obtain rfl : [.python] = languages := Except.ok.inj hlanguages
  have hresults : results = twoVersionsConfig.allOutcomes [.python] firstDocument := by
    rw [hrun] at hwrites
    exact hrefused.mp (by simpa using hwrites)
  obtain ⟨hadds, hcommand⟩ := hall hresults
  obtain ⟨report, hreport, haccounts⟩ := hcommand twoVersions rfl
  refine ⟨report, final, model, hreport, fun hexit => ?_, hmodel, fun file hfile => ?_⟩
  · have hfailed :
        .failed "v2" problem ∈ twoVersionsConfig.allOutcomes [.python] firstDocument := by
      refine List.mem_flatMap.mpr ⟨some "v2", by decide, ?_⟩
      rw [outcomes, hproblem]
      exact List.mem_singleton_self _
    have hgood := haccounts.exitCode_eq_zero_iff.mp hexit _ (hresults ▸ hfailed)
    exact Bool.false_ne_true hgood.symm
  · have htexts : file ∈ twoVersionsConfig.allTexts [.python] firstDocument :=
      List.mem_flatMap.mpr ⟨some "v1", by decide,
        mem_texts_iff.mpr ⟨model, hmodel, .python, List.mem_cons_self, hfile⟩⟩
    exact (hadds _ _).mpr (.inl ⟨file, htexts, rfl, rfl⟩)

/-- A configuration whose documents are beside the output directory, while the path of the second
one leads through it. -/
def detour : Config where
  specPath := "\x7bversion\x7d/../doc.json"
  outputDirectory := "sdk"
  languages := ["py"]
  apiVersions := ["a", "sdk"]

/-- A tree with the document, in which the output directory is missing. -/
def detourTree : FileTree where
  entries := [(["a"], .directory), (["doc.json"], .file "\x7b\x7d")]

/-- A version may be loaded just because an earlier one has been written. The second version cannot
be loaded at the beginning, and on its own it fails. But the files of the first one are written to
the output directory, and from then on the path of the second document leads somewhere. -/
theorem run_not_isolated :
    (∀ name ∈ detour.apiVersions, FilePath.IsName name) ∧ detour.apiVersions.Nodup ∧
    (∀ version ∈ detour.versions, ∀ path ∈ detour.documentPaths version,
      ¬detourTree.placeOf detour.outputDirectory <+: detourTree.placeOf path) ∧
    (detour.loadFrom detourTree (some "sdk")).toOption.isNone = true ∧
    ({ detour with apiVersions := ["sdk"] }.runIn detourTree).1.toOption.map
      (List.map PassResult.isFailed) = some [true] ∧
    (detour.runIn detourTree).1.toOption.map (List.map PassResult.isFailed) =
      some [false, false] := by
  decide +kernel

end Config

end ClientGen
