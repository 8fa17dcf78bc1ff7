import Mathlib
import WasmBindings.Proofs.Build.Running
import WasmBindings.Proofs.Sandbox.Files
import WasmBindings.Sandbox.Platform

/-!
# Where the output of a compiler is read

A compiler is started in the input directory, and the path of its output is handed over to it as
text. So it resolves a relative path from the input directory, while the build, which stays in its
own working directory, resolves the same text from there. The bytes that a run has made are returned
exactly if both ways lead to them (`Sandbox.Returns`): always with an absolute cache directory, or if
the input directory is the working directory, but not with a relative cache directory and a project
in a directory below (`Sandbox.run_compile_project`). Then the output is missing, or worse, an
older file in its place is taken for it.

Compilers are not part of the build, so a platform is given by what its programs do, and what is
asked of a compiler is a condition on one run of it (`Sandbox.Compiles`).
-/

namespace WasmBindings

/-! ## What compilers are asked for -/

namespace Rustc

/-- The command that compiles an entry file. -/
def command (program : String) (entry input cache : Path) (profile : Profile) : Command where
  program
  arguments := arguments entry profile (outputPath cache entry)
  directory := some input

/-- The output that a command asks for: the last argument, behind `-o`. -/
def output? (c : Command) : Option Path :=
  match c.arguments.reverse with
  | output :: "-o" :: _ => some ⟨output⟩
  | _ => none

theorem output?_command (program : String) (entry input cache : Path) (profile : Profile) :
    output? (command program entry input cache profile) = some (outputPath cache entry) := by
  unfold output? command arguments
  rw [List.reverse_append]
  rfl

theorem compile_eq {m : Type → Type} [Monad m] (p : Platform m) (program : String)
    (entry input cache : Path) (profile : Profile) :
    (compiler p program entry).compile input cache profile = do
      attempt .tool (p.runTool program (command program entry input cache profile))
      let wasm ← attempt .tool (p.readOutput program (outputPath cache entry))
      return ⟨entry.artifactName, wasm⟩ := rfl

end Rustc

namespace Cargo

/-- The command that builds a package. -/
def command (program : String) (input cache : Path) (profile : Profile) : Command where
  program
  arguments := arguments profile
  directory := some input
  settings := [("CARGO_TARGET_DIR", cache.text)]

/-- The output that a command asks for, if the package has some name: by target, profile and name
below the directory that the environment names. -/
def output? (name : String) (c : Command) : Option Path :=
  (c.settings.lookup "CARGO_TARGET_DIR").map fun target =>
    outputPath ⟨target⟩ (if "--release" ∈ c.arguments then .release else .debug) name

theorem output?_command (name program : String) (input cache : Path) (profile : Profile) :
    output? name (command program input cache profile) = some (outputPath cache profile name) := by
  cases profile <;> rfl

theorem compile_eq {m : Type → Type} [Monad m] (p : Platform m) (program : String)
    (input cache : Path) (profile : Profile) :
    (compiler p program).compile input cache profile = packageName p input >>= fun name => do
      attempt .tool (p.runTool program (command program input cache profile))
      let wasm ← attempt .tool (p.readOutput program (outputPath cache profile name))
      return ⟨name, wasm⟩ := rfl

end Cargo

/-! ## Runs of compilers -/

namespace Sandbox

/-- What starting a command does. -/
abbrev Start := Command → Sandbox → Sandbox × Except IoError Completion

/-- The platform of a sandbox in which commands do what `start` says. -/
def platformOf (start : Start) : Platform (StateM Sandbox) :=
  { platform with
    run := fun command s =>
      let (s, outcome) := start command s
      (outcome, s) }

/-- The platform of the sandbox itself is one of these. -/
theorem platformOf_runCommand : platformOf (fun command s => s.runCommand command) = platform := rfl

/-- A run of a compiler that makes what it is asked for: the command is started in its directory, it
ends with success, and the output, as seen from that directory, holds the bytes it has made. -/
structure Compiles (start : Start) (s : Sandbox) (command : Command) (directory : Place)
    (output : Path) (wasm : Bytes) (after : Sandbox) : Prop where
  inside : s.startDirectory command = .ok directory
  ended : ∃ completion, start command s = (after, .ok completion) ∧ completion.status.isSuccess
  home : after.home = s.home
  written : after.tree.readFile directory output = .ok wasm

/-- What a compilation returns after such a run, by what the output is as seen from the working
directory of the build. -/
structure Returns (after : Sandbox) (directory : Place) (program name : String)
    (cache output : Path) (wasm : Bytes) (result : Except BuildError Compiled) : Prop where
  /-- The bytes of this run are returned exactly if they are found there. -/
  fresh_iff : result = .ok ⟨name, wasm⟩ ↔ after.tree.readFile after.home output = .ok wasm
  /-- They are if both directories lead to one place. -/
  same_place : after.tree.resolve directory output = after.tree.resolve after.home output →
    result = .ok ⟨name, wasm⟩
  /-- An absolute cache directory leads there from anywhere. -/
  absolute : cache.isAbsolute → result = .ok ⟨name, wasm⟩
  /-- Else whatever is found there is taken for the output. -/
  found : ∀ other, after.tree.readFile after.home output = .ok other → result = .ok ⟨name, other⟩
  missing : after.tree.readFile after.home output = .error .notFound →
    result = .error (.tool (.missingOutput program output))

end Sandbox

/-! ## Paths -/

namespace Path

theorem isAbsolute_append {front : String} (h : (⟨front⟩ : Path).isAbsolute) (back : String) :
    (⟨front ++ back⟩ : Path).isAbsolute := by
  unfold isAbsolute at h ⊢
  rw [beq_iff_eq] at h ⊢
  rw [String.toList_append, List.head?_append, h]
  rfl

/-- Whatever is joined to an absolute path, the result is absolute. -/
theorem isAbsolute_join {directory : Path} (h : directory.isAbsolute) (inner : Path) :
    (directory.join inner).isAbsolute := by
  unfold join
  split
  · next given =>
    rcases given with absolute | none
    · exact absolute
    -- the empty path does not start with a slash
    · rw [String.isEmpty_iff] at none
      rw [isAbsolute, none] at h
      exact absurd h (by decide)
  · split
    · exact isAbsolute_append h _
    · exact isAbsolute_append (isAbsolute_append h "/") _

end Path

/-! ## Running compilers -/

namespace Sandbox

variable {start : Start} {s after : Sandbox} {directory : Place} {output cache : Path}
  {wasm : Bytes} {command : Command} {program name : String}

/-- Running a tool with success and then reading its output gives what is found of the output from
the working directory. -/
theorem returns_of_readOutput (run : Compiles start s command directory output wasm after)
    (below : cache.isAbsolute → output.isAbsolute) {result : Except BuildError Compiled}
    (h : result = ((after.tree.readFile after.home output).mapError fun e =>
      .tool (Platform.outputError program output e)).map (Compiled.mk name)) :
    Returns after directory program name cache output wasm result := by
  have found (bytes : Bytes) (there : after.tree.readFile after.home output = .ok bytes) :
      result = .ok ⟨name, bytes⟩ := by
    rw [h, there]
    rfl
  have same (place : after.tree.resolve directory output = after.tree.resolve after.home output) :
      result = .ok ⟨name, wasm⟩ :=
    found wasm (FileTree.readFile_congr place ▸ run.written)
  refine ⟨⟨?_, found wasm⟩, same, ?_, found, ?_⟩
  · intro returned
    rw [h] at returned
    cases there : after.tree.readFile after.home output with
    | error e =>
      rw [there] at returned
      cases returned
    | ok bytes =>
      rw [there] at returned
      cases returned
      rfl
  · exact fun absolute => same (after.tree.resolve_of_isAbsolute (below absolute) _ _)
  · intro none
    rw [h, none]
    rfl

/-- A tool that ends with success has been run. -/
theorem runTool_of_success {completion : Completion}
    (ran : start command s = (after, .ok completion)) (success : completion.status.isSuccess)
    (tool : String) : (platformOf start).runTool tool command s = (.ok (), after) := by
  have ended : (platformOf start).run command s = (.ok completion, after) := by
    change ((start command s).2, (start command s).1) = _
    rw [ran]
  rw [Platform.runTool_of_run ended, Platform.judge_of_success success]

/-- Both compilers run a tool and then read its output, which is found as it is seen from the
working directory. -/
theorem run_runTool_readOutput {completion : Completion}
    (ran : start command s = (after, .ok completion)) (success : completion.status.isSuccess)
    (tool name : String) (output : Path) :
    (do
      attempt BuildError.tool ((platformOf start).runTool tool command)
      let wasm ← attempt BuildError.tool ((platformOf start).readOutput tool output)
      return ⟨name, wasm⟩ : ExceptT BuildError (StateM Sandbox) Compiled) s =
    (((after.tree.readFile after.home output).mapError fun e =>
      .tool (Platform.outputError tool output e)).map (Compiled.mk name), after) := by
  have first : attempt BuildError.tool ((platformOf start).runTool tool command) s =
      (.ok (), after) := by
    rw [attempt_apply, runTool_of_success ran success]
    rfl
  have read : attempt BuildError.tool ((platformOf start).readOutput tool output) after =
      ((after.tree.readFile after.home output).mapError fun e =>
        .tool (Platform.outputError tool output e), after) := by
    rw [attempt_apply]
    change (((after.tree.readFile after.home output).mapError _).mapError _, after) = _
    cases after.tree.readFile after.home output <;> rfl
  rw [bind_apply_of_ok first]
  cases there : after.tree.readFile after.home output with
  | error e =>
    rw [there] at read
    rw [bind_apply_of_error read]
    rfl
  | ok wasm =>
    rw [there] at read
    rw [bind_apply_of_ok read]
    rfl

/-! ## Compilers that do what they are asked for -/

/-- A compiler that does what it is asked for: it runs in the directory of the command, makes the
directories around its output, and writes the output. -/
def obeying (output? : Command → Option Path) (wasm : Bytes) : Start := fun command s =>
  match s.startDirectory command, output? command with
  | .error e, _ => (s, .error e)
  | .ok _, none => (s, .ok ⟨.exited 1, []⟩)
  | .ok directory, some output =>
    let (tree, _) := s.tree.makeFirst directory (output.ancestors.drop 1)
    match tree.writeFile directory output wasm with
    | .ok tree => ({ s with tree }, .ok ⟨.exited 0, []⟩)
    | .error _ => ({ s with tree }, .ok ⟨.exited 1, []⟩)

/-- Where its output can be made, such a compiler leaves the output that it was asked for. -/
theorem compiles_of_obeying {output? : Command → Option Path} {outer : FileTree} {file : Place}
    (inside : s.startDirectory command = .ok directory) (asked : output? command = some output)
    (made : s.tree.makeFirst directory (output.ancestors.drop 1) = (outer, .ok ()))
    (named : output.endsInSlash = false) (place : outer.place directory output = .ok file)
    (below : file ≠ []) (free : outer.find? file = none)
    (back : (outer.put file (.file wasm Node.plainMode)).resolve directory output = .ok file) :
    Compiles (obeying output? wasm) s command directory output wasm
      { s with tree := outer.put file (.file wasm Node.plainMode) } := by
  have written := FileTree.writeFile_of_none wasm named place free
  refine ⟨inside, ⟨⟨.exited 0, []⟩, ?_, rfl⟩, rfl, ?_⟩
  · simp only [obeying, inside, asked, made, written]
  · rw [FileTree.readFile_of_resolve back, FileTree.find?_put _ _ below]

/-- A command is started where the path of its directory leads to. -/
theorem startDirectory_of_resolve {d : Path} {place : Place} (given : command.directory = some d)
    (h : s.tree.resolve s.home d = .ok place) (found : s.tree.find? place = some .directory) :
    s.startDirectory command = .ok place := by
  simp only [startDirectory, given, h, FileTree.requireDirectory_of_find? found, bind, Except.bind]
  rfl

/-- The name of a package is that in its manifest. -/
theorem packageName_of_readFile {input : Path} {source : String}
    (read : s.tree.readFile s.home (input.join ⟨"Cargo.toml"⟩) = .ok (Utf8.encode source))
    (named : Manifest.packageName source = .ok name) :
    Cargo.packageName (platformOf start) input s = (.ok name, s) := by
  have first : attempt (BuildError.io (input.join ⟨"Cargo.toml"⟩))
      ((platformOf start).readFile (input.join ⟨"Cargo.toml"⟩)) s =
      (.ok (Utf8.encode source), s) := by
    rw [attempt_apply]
    change ((s.tree.readFile s.home _).mapError _, s) = _
    rw [read]
    rfl
  unfold Cargo.packageName
  rw [bind_apply_of_ok first, Utf8.decode?_encode]
  change (ExceptT.mk (pure ((Manifest.packageName source).mapError _)) :
    ExceptT BuildError (StateM Sandbox) String) s = _
  rw [named]
  rfl

/-- A working directory with a project in a directory below, and what an older run may have left in
its cache. -/
def project (older : Option Bytes) : Sandbox where
  tree :=
    ⟨[(["work"], .directory), (["work", "proj"], .directory)] ++
      match older with
      | none => []
      | some bytes => [(["work", "cache"], .directory),
          (["work", "cache", "lib.wasm"], .file bytes Node.plainMode)]⟩
  home := ["work"]
  searchPath := []

/-- The command that compiles the project. -/
abbrev projectCommand (cache : Path) : Command :=
  Rustc.command "rustc" ⟨"lib.rs"⟩ ⟨"proj"⟩ cache .debug

theorem startDirectory_projectCommand (older : Option Bytes) (cache : Path) :
    (project older).startDirectory (projectCommand cache) = .ok ["work", "proj"] :=
  startDirectory_of_resolve rfl (FileTree.resolve_of_leadsDown rfl rfl rfl rfl) rfl

/-- The project after a compiler has put its output into a new directory. -/
def compiledProject (older : Option Bytes) (cache : Place) (wasm : Bytes) : Sandbox :=
  { project older with
    tree := ((project older).tree.put cache .directory).put (cache ++ ["lib.wasm"])
      (.file wasm Node.plainMode) }

/-! ## Compilations -/

/-- **A compilation returns what this run of the compiler made exactly if the output is the same file
as seen from the input directory, where the compiler ran, and from the working directory of the
build.** It is with an absolute cache directory; else whatever stands there is returned, whichever
run it is from. -/
theorem compile_returns (start : Start) (program : String) (input cache : Path) (profile : Profile)
    (s after : Sandbox) (directory : Place) (wasm : Bytes) :
    (∀ entry output,
      Rustc.output? (Rustc.command program entry input cache profile) = some output →
      Compiles start s (Rustc.command program entry input cache profile) directory output wasm
        after →
      Returns after directory program entry.artifactName cache output wasm
        ((Rustc.compiler (platformOf start) program entry).compile input cache profile s).1) ∧
    ∀ name output, Cargo.packageName (platformOf start) input s = (.ok name, s) →
      Cargo.output? name (Cargo.command program input cache profile) = some output →
      Compiles start s (Cargo.command program input cache profile) directory output wasm after →
      Returns after directory program name cache output wasm
        ((Cargo.compiler (platformOf start) program).compile input cache profile s).1 := by
  constructor
  · intro entry output asked run
    rw [Rustc.output?_command, Option.some.injEq] at asked
    subst asked
    obtain ⟨completion, ran, success⟩ := run.ended
    refine returns_of_readOutput run (fun absolute => Path.isAbsolute_join absolute _) ?_
    rw [Rustc.compile_eq, run_runTool_readOutput ran success]
  · intro name output named asked run
    rw [Cargo.output?_command, Option.some.injEq] at asked
    subst asked
    obtain ⟨completion, ran, success⟩ := run.ended
    have below (absolute : cache.isAbsolute) : (Cargo.outputPath cache profile name).isAbsolute :=
      Path.isAbsolute_join (Path.isAbsolute_join (Path.isAbsolute_join absolute _) _) _
    refine returns_of_readOutput run below ?_
    rw [Cargo.compile_eq, bind_apply_of_ok named, run_runTool_readOutput ran success]

/-- A working directory with a package, and a cache that earlier builds have made. -/
def package : Sandbox where
  tree := ⟨[(["work"], .directory),
    (["work", "Cargo.toml"], .file (Utf8.encode "package.name='a-b'") Node.plainMode),
    (["work", "cache"], .directory), (["work", "cache", "wasm32-unknown-unknown"], .directory),
    (["work", "cache", "wasm32-unknown-unknown", "debug"], .directory)]⟩
  home := ["work"]
  searchPath := []

/-- The place of the binary of the package. -/
def packageOutput : Place := ["work", "cache", "wasm32-unknown-unknown", "debug", "a_b.wasm"]

theorem packageName_package (start : Start) :
    Cargo.packageName (platformOf start) ⟨"/work"⟩ package = (.ok "a-b", package) := by
  have there : package.tree.resolve ["work"] ⟨"/work/Cargo.toml"⟩ = .ok ["work", "Cargo.toml"] :=
    FileTree.resolve_of_leadsDown rfl rfl rfl rfl
  have named : Manifest.packageName "package.name='a-b'" = .ok "a-b" := by cbv
  refine packageName_of_readFile ?_ named
  change package.tree.readFile ["work"] ⟨"/work/Cargo.toml"⟩ = _
  rw [FileTree.readFile_of_resolve there]
  rfl

/-- A compiler started in the package makes its output in the cache. -/
theorem compiles_package (wasm : Bytes) : Compiles (obeying (Cargo.output? "a-b") wasm) package
    (Cargo.command "cargo" ⟨"/work"⟩ ⟨"cache"⟩ .debug) ["work"]
    ⟨"cache/wasm32-unknown-unknown/debug/a_b.wasm"⟩ wasm
    { package with tree := package.tree.put packageOutput (.file wasm Node.plainMode) } := by
  have inside : package.startDirectory (Cargo.command "cargo" ⟨"/work"⟩ ⟨"cache"⟩ .debug) =
      .ok ["work"] :=
    startDirectory_of_resolve rfl (FileTree.resolve_of_leadsDown rfl rfl rfl rfl) rfl
  -- the directory of the output is there already
  have made : package.tree.makeFirst ["work"] [⟨"cache/wasm32-unknown-unknown/debug"⟩,
      ⟨"cache/wasm32-unknown-unknown"⟩, ⟨"cache"⟩, ⟨""⟩] = (package.tree, .ok ()) :=
    FileTree.makeFirst_of_directory _ rfl (FileTree.place_of_leadsDown rfl rfl rfl) rfl
      (FileTree.resolve_of_leadsDown rfl rfl rfl rfl)
  exact compiles_of_obeying inside rfl made rfl (FileTree.place_of_leadsDown rfl rfl rfl) (by decide)
    rfl (FileTree.resolve_of_leadsDown rfl rfl rfl rfl)

/-- A compiler that is asked for an absolute output makes it there. -/
theorem compiles_project_absolute (wasm : Bytes) :
    Compiles (obeying Rustc.output? wasm) (project none) (projectCommand ⟨"/work/cache"⟩)
      ["work", "proj"] ⟨"/work/cache/lib.wasm"⟩ wasm
      (compiledProject none ["work", "cache"] wasm) := by
  have cache : (project none).tree.place ["work", "proj"] ⟨"/work/cache"⟩ false =
      .ok ["work", "cache"] := FileTree.place_of_leadsDown rfl rfl rfl
  have made := FileTree.makeFirst_of_none [⟨"/work"⟩, ⟨"/"⟩] rfl cache rfl
  exact compiles_of_obeying (startDirectory_projectCommand _ _) rfl made rfl
    (FileTree.place_of_leadsDown rfl rfl rfl) (by decide) rfl
    (FileTree.resolve_of_leadsDown rfl rfl rfl rfl)

/-- An entry file compiled into an absolute cache directory, and a package compiled in the working
directory: both return what the compiler made. -/
theorem compile_returns_fresh :
    (Compiles (obeying Rustc.output? [1]) (project none) (projectCommand ⟨"/work/cache"⟩)
        ["work", "proj"] ⟨"/work/cache/lib.wasm"⟩ [1]
        (compiledProject none ["work", "cache"] [1]) ∧
      ((Rustc.compiler (platformOf (obeying Rustc.output? [1])) "rustc" ⟨"lib.rs"⟩).compile ⟨"proj"⟩
        ⟨"/work/cache"⟩ .debug (project none)).1 = .ok ⟨"lib", [1]⟩) ∧
    Compiles (obeying (Cargo.output? "a-b") [1]) package
        (Cargo.command "cargo" ⟨"/work"⟩ ⟨"cache"⟩ .debug) ["work"]
        ⟨"cache/wasm32-unknown-unknown/debug/a_b.wasm"⟩ [1]
        { package with tree := package.tree.put packageOutput (.file [1] Node.plainMode) } ∧
      ((Cargo.compiler (platformOf (obeying (Cargo.output? "a-b") [1])) "cargo").compile ⟨"/work"⟩
        ⟨"cache"⟩ .debug package).1 = .ok ⟨"a-b", [1]⟩ := by
  have entry := (compile_returns (obeying Rustc.output? [1]) "rustc" ⟨"proj"⟩ ⟨"/work/cache"⟩ .debug
    (project none) _ _ [1]).1 ⟨"lib.rs"⟩ _ rfl (compiles_project_absolute [1])
  have named := (compile_returns (obeying (Cargo.output? "a-b") [1]) "cargo" ⟨"/work"⟩ ⟨"cache"⟩
    .debug package _ _ [1]).2 "a-b" _ (packageName_package _) rfl (compiles_package [1])
  exact ⟨⟨compiles_project_absolute [1], entry.absolute rfl⟩, compiles_package [1],
    named.same_place rfl⟩

/-! ## A relative cache directory -/

/-- A compiler started in the project makes its output there, in a cache of its own. -/
theorem compiles_project (older : Option Bytes) (wasm : Bytes) :
    Compiles (obeying Rustc.output? wasm) (project older) (projectCommand ⟨"cache"⟩)
      ["work", "proj"] ⟨"cache/lib.wasm"⟩ wasm
      (compiledProject older ["work", "proj", "cache"] wasm) := by
  have cache : (project older).tree.place ["work", "proj"] ⟨"cache"⟩ false =
      .ok ["work", "proj", "cache"] := by
    cases older <;> exact FileTree.place_of_leadsDown rfl rfl rfl
  have free : (project older).tree.find? ["work", "proj", "cache"] = none := by
    cases older <;> rfl
  have made := FileTree.makeFirst_of_none [⟨""⟩] rfl cache free
  have file : ((project older).tree.put ["work", "proj", "cache"] .directory).place
      ["work", "proj"] ⟨"cache/lib.wasm"⟩ = .ok ["work", "proj", "cache", "lib.wasm"] := by
    cases older <;> exact FileTree.place_of_leadsDown rfl rfl rfl
  refine compiles_of_obeying (startDirectory_projectCommand _ _) rfl made rfl file (by simp) ?_ ?_
  · cases older <;> rfl
  · cases older <;> exact FileTree.resolve_of_leadsDown rfl rfl rfl rfl

/-- The build does not see it: it finds what an older run has left in its own cache, or nothing. -/
theorem run_compile_project (older : Option Bytes) (wasm : Bytes) :
    ((Rustc.compiler (platformOf (obeying Rustc.output? wasm)) "rustc" ⟨"lib.rs"⟩).compile ⟨"proj"⟩
      ⟨"cache"⟩ .debug (project older)).1 =
    match older with
    | none => .error (.tool (.missingOutput "rustc" ⟨"cache/lib.wasm"⟩))
    | some bytes => .ok ⟨"lib", bytes⟩ := by
  obtain ⟨completion, ran, success⟩ := (compiles_project older wasm).ended
  have read : (compiledProject older ["work", "proj", "cache"] wasm).tree.readFile ["work"]
      ⟨"cache/lib.wasm"⟩ =
      match older with
      | none => .error .notFound
      | some bytes => .ok bytes := by
    cases older with
    | none => exact FileTree.readFile_of_missing rfl rfl rfl rfl rfl
    | some bytes =>
      have there : (compiledProject (some bytes) ["work", "proj", "cache"] wasm).tree.resolve
          ["work"] ⟨"cache/lib.wasm"⟩ = .ok ["work", "cache", "lib.wasm"] :=
        FileTree.resolve_of_leadsDown rfl rfl rfl rfl
      exact FileTree.readFile_of_resolve there
  rw [Rustc.compile_eq, run_runTool_readOutput ran success]
  change ((FileTree.readFile _ ["work"] ⟨"cache/lib.wasm"⟩).mapError _).map _ = _
  rw [read]
  cases older <;> rfl

/-- **With a relative cache directory, the compiler and the build may not agree on where the output
is.** The compiler makes it and ends with success, and the build misses it, or takes for it what an
older run has left. -/
theorem compile_project_elsewhere :
    (Compiles (obeying Rustc.output? [1]) (project none) (projectCommand ⟨"cache"⟩)
        ["work", "proj"] ⟨"cache/lib.wasm"⟩ [1]
        (compiledProject none ["work", "proj", "cache"] [1]) ∧
      ((Rustc.compiler (platformOf (obeying Rustc.output? [1])) "rustc" ⟨"lib.rs"⟩).compile ⟨"proj"⟩
        ⟨"cache"⟩ .debug (project none)).1 =
        .error (.tool (.missingOutput "rustc" ⟨"cache/lib.wasm"⟩))) ∧
    Compiles (obeying Rustc.output? [1]) (project (some [0])) (projectCommand ⟨"cache"⟩)
        ["work", "proj"] ⟨"cache/lib.wasm"⟩ [1]
        (compiledProject (some [0]) ["work", "proj", "cache"] [1]) ∧
      ((Rustc.compiler (platformOf (obeying Rustc.output? [1])) "rustc" ⟨"lib.rs"⟩).compile ⟨"proj"⟩
        ⟨"cache"⟩ .debug (project (some [0]))).1 = .ok ⟨"lib", [0]⟩ :=
  ⟨⟨compiles_project none [1], run_compile_project none [1]⟩, compiles_project (some [0]) [1],
    run_compile_project (some [0]) [1]⟩

end Sandbox

end WasmBindings
