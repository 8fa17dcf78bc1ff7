import WasmBindings.Proofs.Bindings.Comment
import WasmBindings.Proofs.Text.Delimited

/-!
# The host surface, read back from the declarations

What of a module is visible to the host is little: for each function its name, the number of its
parameters and whether it returns a number, and the names of the exported memories
(`Module.hostSurface`). The declarations say exactly that much. They depend on nothing else besides
the mode and the comment (`Module.surface_of_ok`), and all of it can be read off them again, however
the names look: each part of the text is delimited, from the name of a member up to the interfaces.
-/

namespace WasmBindings

/-- How a member of the surface looks from the host: a function by the number of its parameters and
what it returns, a memory by its name alone. -/
inductive HostMember where
  | function (name : String) (arity : Nat) (result : HostType)
  | memory (name : String)
  deriving DecidableEq, Repr

/-- What the caller supplies and what it gets, as it looks from the host. -/
structure HostSurface where
  supplied : List HostMember
  offered : List HostMember
  deriving DecidableEq, Repr

/-- How a function of this signature looks from the host, under some name. -/
def Signature.hostMember (s : Signature) (name : String) : HostMember :=
  .function name s.parameters.length (if s.results = [] then .void else .number)

/-- The host surface of a module: the functions that it imports from the caller's module, in import
order, and the functions and memories that it exports, in export order. -/
def Module.hostSurface (m : Module) : HostSurface where
  supplied := m.imports.filterMap fun i =>
    if i.moduleName = callerModule then
      (i.kind.signature?.bind fun k => m.signatures[k.toNat]?).map (·.hostMember i.name)
    else none
  offered := m.exports.filterMap fun e =>
    match e.space with
    | .function => ((m.importedFunctions ++ m.functions)[e.index.toNat]?.bind fun k =>
        m.signatures[k.toNat]?).map (·.hostMember e.name)
    | .memory => some (.memory e.name)
    | .table | .global => none

/-- What the comment says of an omitted import. -/
def Import.mention (i : Import) : String × String × IndexSpace :=
  (i.moduleName, i.name, i.kind.space)

/-- The member that looks like this; all parameters of a function are numbers. -/
def HostMember.member : HostMember → Member
  | function name arity result => .method name ⟨List.replicate arity .number, result⟩
  | memory name => .memory name

/-! ## The surface behind the declarations -/

theorem ValueType.hostType_eq_number {t : ValueType} {host : HostType} (h : t.hostType = .ok host) :
    host = .number := by
  cases t <;> cases h <;> rfl

theorem hostResult_eq {results : List ValueType} {host : HostType}
    (h : hostResult results = .ok host) : host = if results = [] then .void else .number := by
  match results with
  | [] =>
    cases h
    rfl
  | [result] => exact ValueType.hostType_eq_number h
  | _ :: _ :: _ => cases h

namespace Signature

/-- A signature that has host types is one of numbers, with a number or nothing as its result. -/
theorem host_eq_ok {s : Signature} {host : HostSignature} (h : s.host = .ok host) (name : String) :
    .method name host = (s.hostMember name).member := by
  obtain ⟨parameters, first, h⟩ := Outcome.bind_eq_ok_iff.1 h
  obtain ⟨result, second, h⟩ := Outcome.bind_eq_ok_iff.1 h
  cases h
  rw [Outcome.mapM_eq_replicate first fun _ _ => ValueType.hostType_eq_number,
    hostResult_eq second]
  rfl

end Signature

namespace Module

theorem method_eq_ok {m : Module} {user : SignatureUser} {name : String} {index : UInt32}
    {member : Member} (h : m.method user name index = .ok member) :
    some member = ((m.signature? index).map (·.hostMember name)).map HostMember.member := by
  unfold method at h
  cases found : m.signature? index with
  | none =>
    rw [found] at h
    cases h
  | some s =>
    rw [found] at h
    dsimp only at h
    cases types : s.host with
    | error e =>
      rw [types] at h
      cases h
    | ok host =>
      rw [types] at h
      cases h
      rw [Signature.host_eq_ok types name]
      rfl

theorem suppliedMember_eq_ok {m : Module} {i : Import} {member : Option Member}
    (h : m.suppliedMember i = .ok member) : member = (if i.moduleName = callerModule then
      (i.kind.signature?.bind m.signature?).map (·.hostMember i.name) else none).map
        HostMember.member := by
  unfold suppliedMember Import.supplied? at h
  split
  · next caller =>
    rw [if_pos caller] at h
    cases function : i.kind.signature? with
    | none =>
      rw [function] at h
      cases h
      rfl
    | some index =>
      rw [function] at h
      obtain ⟨method, found, rfl⟩ := Outcome.map_eq_ok_iff.1 h
      exact method_eq_ok found
  · next other =>
    rw [if_neg other] at h
    cases h
    rfl

theorem offeredMember_eq_ok {m : Module} {x : Export} {member : Option Member}
    (h : m.offeredMember x = .ok member) : member = (match x.space with
      | .function => (m.functionSignature? x.index).map (·.hostMember x.name)
      | .memory => some (.memory x.name)
      | .table | .global => none : Option HostMember).map HostMember.member := by
  unfold offeredMember at h
  cases space : x.space with
  | function =>
    rw [space] at h
    dsimp only at h ⊢
    unfold functionSignature?
    cases numbered : m.signatureIndex? x.index with
    | none =>
      rw [numbered] at h
      cases h
    | some index =>
      rw [numbered] at h
      obtain ⟨method, found, rfl⟩ := Outcome.map_eq_ok_iff.1 h
      exact method_eq_ok found
  | memory =>
    rw [space] at h
    cases h
    rfl
  | table | global =>
    rw [space] at h
    cases h
    rfl

/-- **The declarations know no more of a module than its host surface** and the imports that they
leave out. -/
theorem surface_of_ok {m : Module} {surface : Surface} (h : m.surface = .ok surface) :
    surface = ⟨m.hostSurface.supplied.map HostMember.member,
      m.hostSurface.offered.map HostMember.member, m.omitted⟩ := by
  have omitted := omitted_of_surface h
  obtain ⟨supplied, first, h⟩ := Outcome.bind_eq_ok_iff.1 h
  obtain ⟨offered, second, h⟩ := Outcome.bind_eq_ok_iff.1 h
  cases h
  rw [← omitted]
  congr 1
  -- the queries look up in the lists that the host surface is made from
  · exact Outcome.filterMap_mapM_eq first fun i member h => suppliedMember_eq_ok h
  · exact Outcome.filterMap_mapM_eq second fun e member h => offeredMember_eq_ok h

end Module

/-! ## Members -/

namespace Declarations

/-- The names that stand as they are go on in characters that nothing behind a name starts with. -/
theorem all_of_isIdentifier {cs : List Char} (h : isIdentifier cs) :
    cs.all continuesIdentifier := by
  cases cs with
  | nil => cases h
  | cons c rest =>
    obtain ⟨first, others⟩ := (Bool.and_eq_true _ _).mp h
    rw [List.all_cons, others, continuesIdentifier, first]
    rfl

/-- A name that stands as it is does not start with a quote. -/
theorem append_ne_quote {cs : List Char} (h : isIdentifier cs) (x y : List Char) :
    cs ++ x ≠ '"' :: y := by
  intro same
  cases cs with
  | nil => cases h
  | cons c rest =>
    obtain ⟨rfl, _⟩ := List.cons.inj same
    cases h

/-- A name that stands as it is does not look like a literal. -/
theorem toList_ne_encodeChars {cs : List Char} (h : isIdentifier cs) (ds x y : List Char) :
    cs ++ x ≠ Quoted.encodeChars ds ++ y :=
  append_ne_quote h x _

/-- The name of a member is told from whatever stands behind it, be it bare or quoted. -/
theorem memberName_append_inj {name other : String} {c d : Char} {x y : List Char}
    (hc : continuesIdentifier c = false) (hd : continuesIdentifier d = false)
    (same : (memberName name).toList ++ c :: x = (memberName other).toList ++ d :: y) :
    name = other ∧ c = d ∧ x = y := by
  unfold memberName Quoted.encode at same
  split at same
  · next bare =>
    split at same
    · next bare' =>
      obtain ⟨names, rest⟩ := append_cons_inj_of_all (all_of_isIdentifier bare)
        (all_of_isIdentifier bare') hc hd same
      exact ⟨String.toList_inj.1 names, rest⟩
    · rw [String.toList_ofList] at same
      exact absurd same (toList_ne_encodeChars bare _ _ _)
  · split at same
    · next bare =>
      rw [String.toList_ofList] at same
      exact absurd same.symm (toList_ne_encodeChars bare _ _ _)
    · rw [String.toList_ofList, String.toList_ofList] at same
      obtain ⟨names, rest⟩ := Quoted.delimited_encodeChars _ _ _ _ same
      exact ⟨String.toList_inj.1 names, List.cons.inj rest⟩

/-- A character that does not separate the parts of a text is only found in the parts. -/
theorem count_intercalate {sep : List Char} {c : Char} (h : c ∉ sep) (parts : List (List Char)) :
    (sep.intercalate parts).count c = (parts.map (List.count c)).sum := by
  induction parts with
  | nil => rfl
  | cons a parts ih =>
    cases parts with
    | nil => simp [List.intercalate]
    | cons b parts =>
      have step : sep.intercalate (a :: b :: parts) =
          a ++ (sep ++ sep.intercalate (b :: parts)) := by
        simp [List.intercalate]
      rw [step, List.count_append, List.count_append, ih, List.count_eq_zero_of_not_mem h,
        Nat.zero_add]
      rfl

theorem count_repr {c : Char} (digit : c.isDigit = false) (i : Nat) :
    i.repr.toList.count c = 0 := by
  refine List.count_eq_zero_of_not_mem fun mem => ?_
  rw [Nat.toList_repr] at mem
  have isDigit := Nat.isDigit_of_mem_toDigits (by decide) (by decide) mem
  rw [digit] at isDigit
  cases isDigit

/-- Parameters differ in their numbers only. -/
theorem count_parameter {c : Char} (digit : c.isDigit = false) (i : Nat) :
    (s!"arg{i}: {HostType.number.text}").toList.count c = "arg: number".toList.count c := by
  have text : (s!"arg{i}: {HostType.number.text}").toList =
      "arg".toList ++ (i.repr.toList ++ ": number".toList) := by
    simp only [String.toList_append, toString, HostType.text, List.append_assoc,
      String.reduceToList, List.cons_append, List.nil_append]
  have whole : "arg: number".toList = "arg".toList ++ ": number".toList := by
    simp only [String.reduceToList, List.cons_append, List.nil_append]
  rw [text, whole, List.count_append, List.count_append, List.count_append, count_repr digit,
    Nat.zero_add]

/-- How often a character occurs in the parameters of a method, if it is neither a digit nor one of
those between parameters. -/
theorem count_parameterList {c : Char} (digit : c.isDigit = false) (sep : c ∉ [',', ' '])
    (arity : Nat) : (parameterList (List.replicate arity .number)).toList.count c =
      arity * "arg: number".toList.count c := by
  have all : ∀ p ∈ (List.replicate arity HostType.number).zipIdx,
      (s!"arg{p.2}: {p.1.text}").toList.count c = "arg: number".toList.count c := by
    intro p mem
    rw [List.eq_of_mem_replicate (List.fst_mem_of_mem_zipIdx mem)]
    exact count_parameter digit p.2
  unfold parameterList
  rw [String.toList_intercalate, count_intercalate (by simpa using sep), List.map_map, List.map_map]
  change ((List.replicate arity HostType.number).zipIdx.map
    fun p => (s!"arg{p.2}: {p.1.text}").toList.count c).sum = _
  rw [List.map_congr_left all, List.map_const', List.sum_replicate, List.length_zipIdx,
    List.length_replicate]
  rfl

/-- The bracket that closes the parameters of a method is not in them. -/
theorem all_parameterList (arity : Nat) :
    (parameterList (List.replicate arity .number)).toList.all (· != ')') := by
  have none := count_parameterList (c := ')') (by decide) (by decide) arity
  rw [show "arg: number".toList.count ')' = 0 by decide +kernel, Nat.mul_zero,
    List.count_eq_zero] at none
  simpa [List.all_eq_true] using fun c hc => ne_of_mem_of_not_mem hc none

/-- The parameters of a method are told from their number alone, up to the closing bracket. -/
theorem parameterList_append_inj {arity other : Nat} {x y : List Char}
    (same : (parameterList (List.replicate arity .number)).toList ++ ')' :: x =
      (parameterList (List.replicate other .number)).toList ++ ')' :: y) :
    arity = other ∧ x = y := by
  -- each parameter has one colon, so the colons count them
  have colons (n : Nat) : (parameterList (List.replicate n .number)).toList.count ':' = n := by
    rw [count_parameterList (by decide) (by decide),
      show "arg: number".toList.count ':' = 1 by decide +kernel, Nat.mul_one]
  obtain ⟨parameters, _, rest⟩ := append_cons_inj_of_all (all_parameterList arity)
    (all_parameterList other) (by decide) (by decide) same
  refine ⟨?_, rest⟩
  rw [← colons arity, parameters, colons]

/-- A method in parts: its name, and what stands between and behind the brackets. -/
theorem toList_memberText_function (name : String) (arity : Nat) (result : HostType) :
    (memberText (HostMember.function name arity result).member).toList =
      (memberName name).toList ++ '(' :: ((parameterList (List.replicate arity .number)).toList ++
        ')' :: (": ".toList ++ (result.text.toList ++ [';']))) := by
  unfold HostMember.member memberText
  simp only [String.toList_append, toString, String.reduceToList, List.append_assoc,
    List.cons_append, List.nil_append]

/-- A memory in parts. -/
theorem toList_memberText_memory (name : String) :
    (memberText (HostMember.memory name).member).toList =
      (memberName name).toList ++ ':' :: " WebAssembly.Memory;".toList := by
  unfold HostMember.member memberText
  simp only [String.toList_append, toString, String.reduceToList]

/-- **A member says what it is**, and where it ends. -/
theorem delimited_memberText :
    Delimited fun h : HostMember => (memberText h.member).toList := by
  have result (r r' : HostType) (x y : List Char)
      (same : r.text.toList ++ ([';'] ++ x) = r'.text.toList ++ ([';'] ++ y)) : r = r' ∧ x = y := by
    cases r <;> cases r'
    · exact ⟨rfl, List.append_cancel_left (List.append_cancel_left same)⟩
    · cases same
    · cases same
    · exact ⟨rfl, List.append_cancel_left (List.append_cancel_left same)⟩
  intro a b x y same
  cases a with
  | function name arity returns =>
    cases b with
    | function other arity' returns' =>
      simp only [toList_memberText_function, List.append_assoc, List.cons_append] at same
      obtain ⟨rfl, _, parameters⟩ := memberName_append_inj (by decide) (by decide) same
      obtain ⟨rfl, returned⟩ := parameterList_append_inj parameters
      obtain ⟨rfl, behind⟩ := result _ _ _ _ (List.append_cancel_left returned)
      exact ⟨rfl, behind⟩
    | memory other =>
      simp only [toList_memberText_function, toList_memberText_memory, List.append_assoc,
        List.cons_append] at same
      obtain ⟨_, bracket, _⟩ := memberName_append_inj (by decide) (by decide) same
      cases bracket
  | memory name =>
    cases b with
    | function other arity returns =>
      simp only [toList_memberText_function, toList_memberText_memory, List.append_assoc,
        List.cons_append] at same
      obtain ⟨_, bracket, _⟩ := memberName_append_inj (by decide) (by decide) same
      cases bracket
    | memory other =>
      simp only [toList_memberText_memory, List.append_assoc, List.cons_append] at same
      obtain ⟨rfl, _, rest⟩ := memberName_append_inj (by decide) (by decide) same
      exact ⟨rfl, List.append_cancel_left rest⟩

/-! ## Interfaces -/

/-- The lines of an interface, with what stands in front of each member and behind the last. -/
def rows (front stop : List Char) (members : List HostMember) : List Char :=
  members.flatMap (fun h => front ++ ((memberText h.member).toList ++ ['\n'])) ++ stop

theorem toList_lines_append (front stop : String) (members : List HostMember) :
    (lines ((members.map HostMember.member).map fun member => front ++ memberText member) ++
      stop).toList = rows front.toList stop.toList members := by
  unfold lines rows
  simp only [String.toList_append, String.toList_join, List.flatMap_map, String.reduceToList,
    List.append_assoc]

/-- All lines of an interface can be told if none of them looks like the end. -/
theorem delimited_rows {front stop : List Char} (apart : ∀ x y, front ++ x ≠ stop ++ y) :
    Delimited (rows front stop) := by
  refine (delimited_memberText.framed _ _).items fun h x y same => ?_
  rw [List.append_assoc] at same
  exact apart _ _ same

theorem toList_importsText (supplied : List HostMember) :
    (importsText (supplied.map HostMember.member)).toList =
      if supplied = [] then "export interface Imports \x7b\x7d\n".toList
      else "export interface Imports \x7b\n  env: \x7b\n".toList ++
        rows "    ".toList "  \x7d;\n\x7d\n".toList supplied := by
  unfold importsText
  rw [List.isEmpty_map]
  cases supplied with
  | nil => rfl
  | cons h supplied =>
    rw [if_neg (by simp), if_neg (by simp), String.append_assoc, String.toList_append,
      toList_lines_append]
    simp only [String.toList_append, toString, callerModule, String.reduceToList, List.cons_append,
      List.nil_append]

theorem toList_exportsText (offered : List HostMember) :
    (exportsText (offered.map HostMember.member)).toList =
      if offered = [] then "export interface Exports \x7b\x7d\n".toList
      else "export interface Exports \x7b\n".toList ++
        rows "  ".toList "\x7d\n".toList offered := by
  unfold exportsText
  rw [List.isEmpty_map]
  cases offered with
  | nil => rfl
  | cons h offered =>
    rw [if_neg (by simp), if_neg (by simp), String.append_assoc, String.toList_append,
      toList_lines_append]

/-- What the caller supplies can be told from the interface for it. -/
theorem delimited_importsText :
    Delimited fun supplied : List HostMember =>
      (importsText (supplied.map HostMember.member)).toList := by
  simp only [toList_importsText]
  refine (delimited_rows fun x y same => ?_).block fun x y same => ?_
  · cases same
  · simp at same

/-- What the caller gets can be told from the interface for it. -/
theorem delimited_exportsText :
    Delimited fun offered : List HostMember =>
      (exportsText (offered.map HostMember.member)).toList := by
  simp only [toList_exportsText]
  refine (delimited_rows fun x y same => ?_).block fun x y same => ?_
  · cases same
  · simp at same

/-! ## The whole text -/

/-- The factory says how it works. -/
theorem factoryText_inj {mode other : Mode} (same : factoryText mode = factoryText other) :
    mode = other := by
  cases mode <;> cases other
  · rfl
  · exact absurd same (by decide +kernel)
  · exact absurd same (by decide +kernel)
  · rfl

/-- The comment depends on nothing but what it mentions. -/
theorem comment_eq_of_mentions {omitted others : List Import}
    (same : omitted.map Import.mention = others.map Import.mention) :
    comment omitted = comment others := by
  let line : String × String × IndexSpace → String := fun (moduleName, name, space) =>
    let text := s!"{moduleName}.{name} ({space.label})"
    s!" * - {text}"
  have text (omitted : List Import) : comment omitted =
      if (omitted.map Import.mention).isEmpty then ""
      else "/**\n * Imports resolved by the host runtime rather than the caller:\n" ++
        lines ((omitted.map Import.mention).map line) ++ " */\n" := by
    unfold comment
    rw [List.isEmpty_map, List.map_map]
    rfl
  rw [text, text, same]

/-- **All of the surface and the mode can be told from what is rendered,** once the comment is
known. -/
theorem render_inj {supplied offered supplied' offered' : List HostMember}
    {omitted omitted' : List Import} {mode mode' : Mode}
    (same : omitted.map Import.mention = omitted'.map Import.mention)
    (text : render ⟨supplied.map HostMember.member, offered.map HostMember.member, omitted⟩ mode =
      render ⟨supplied'.map HostMember.member, offered'.map HostMember.member, omitted'⟩ mode') :
    supplied = supplied' ∧ offered = offered' ∧ mode = mode' := by
  have chars := congrArg String.toList text
  unfold render at chars
  rw [comment_eq_of_mentions same] at chars
  simp only [String.toList_append, List.append_assoc] at chars
  have interfaces := List.append_cancel_left chars
  obtain ⟨rfl, gap⟩ := delimited_importsText _ _ _ _ interfaces
  have exports := List.append_cancel_left gap
  obtain ⟨rfl, behind⟩ := delimited_exportsText _ _ _ _ exports
  have factory := List.append_cancel_left behind
  exact ⟨rfl, rfl, factoryText_inj (String.toList_inj.1 factory)⟩

end Declarations

namespace Module

/-- The declarations in terms of the host surface. -/
theorem declarations_of_ok {m : Module} {mode : Mode} {text : String}
    (h : m.declarations mode = .ok text) :
    text = Declarations.render ⟨m.hostSurface.supplied.map HostMember.member,
      m.hostSurface.offered.map HostMember.member, m.omitted⟩ mode := by
  obtain ⟨surface, found, h⟩ := Outcome.bind_eq_ok_iff.1 h
  cases h
  rw [surface_of_ok found]

/-- **The declarations determine the host surface and the mode, and are determined by them,** for
modules that leave out the same imports. -/
theorem declarations_eq_iff {m m' : Module} {mode mode' : Mode} {text text' : String}
    (h : m.declarations mode = .ok text) (h' : m'.declarations mode' = .ok text')
    (same : m.omitted.map Import.mention = m'.omitted.map Import.mention) :
    text = text' ↔ m.hostSurface = m'.hostSurface ∧ mode = mode' := by
  rw [declarations_of_ok h, declarations_of_ok h']
  constructor
  · intro equal
    obtain ⟨supplied, offered, modes⟩ := Declarations.render_inj same equal
    refine ⟨?_, modes⟩
    cases surface : m.hostSurface
    cases surface' : m'.hostSurface
    rw [surface, surface'] at supplied offered
    dsimp only at supplied offered
    rw [supplied, offered]
  · rintro ⟨surfaces, rfl⟩
    unfold Declarations.render
    rw [surfaces, Declarations.comment_eq_of_mentions same]

/-- A function whose name looks like two members does not pass for two functions. -/
theorem declarations_ne_of_imitation : ∃ (m m' : Module) (text text' : String),
    m.imports = [⟨"env", "a", .function 0⟩, ⟨"env", "b", .function 0⟩] ∧
      m'.imports = [⟨"env", "a(): void;\n    b", .function 0⟩] ∧
        m.declarations .sync = .ok text ∧ m'.declarations .sync = .ok text' ∧ text ≠ text' := by
  let m : Module :=
    { signatures := [⟨[], []⟩]
      imports := [⟨"env", "a", .function 0⟩, ⟨"env", "b", .function 0⟩] }
  let m' : Module :=
    { signatures := [⟨[], []⟩]
      imports := [⟨"env", "a(): void;\n    b", .function 0⟩] }
  have h : m.declarations .sync = .ok (Declarations.render
      ⟨[.method "a" ⟨[], .void⟩, .method "b" ⟨[], .void⟩], [], []⟩ .sync) := rfl
  have h' : m'.declarations .sync = .ok (Declarations.render
      ⟨[.method "a(): void;\n    b" ⟨[], .void⟩], [], []⟩ .sync) := rfl
  have surfaces : m.hostSurface ≠ m'.hostSurface := by decide
  refine ⟨m, m', _, _, rfl, rfl, h, h', fun same => ?_⟩
  exact surfaces ((declarations_eq_iff h h' rfl).1 same).1

end Module

end WasmBindings
