import WasmBindings.Proofs.Bindings.HostSurface

/-!
# Members as a reader of TypeScript takes them

What a member of the declarations is for those who read them, by the part of the grammar of
interface members that the declarations use: a name with parameters and a type behind it is a
method, a name with a type alone is a property. A name is a word, reserved or not, or a string
literal. One word is special: `new` in front of parameters does not name a method, but says how to
construct an object.

So every function has a method of its own name (`Module.method_read`), whatever characters are in
the name, except for a function called `new`. That name is an identifier, and it is not quoted.
-/

namespace WasmBindings

namespace TypeScript

open Declarations (continuesIdentifier isIdentifier)

/-- A member of an interface. Parameters have a name and a type. -/
inductive InterfaceMember where
  | method (name : String) (parameters : List (String × String)) (result : String)
  | construct (parameters : List (String × String)) (result : String)
  | property (name type : String)
  deriving DecidableEq, Repr

/-- What a member starts with. -/
inductive Key where
  | word (text : String)
  | literal (value : String)
  deriving DecidableEq, Repr

/-- The name that a key stands for. -/
def Key.name : Key → String
  | word text => text
  | literal value => value

/-! ## The reader -/

/-- Skips the blanks between two parts. -/
def skip (cs : List Char) : List Char := cs.dropWhile Char.isWhitespace

/-- Reads a word of ASCII letters, reserved or not. -/
def word? (cs : List Char) : Option (String × List Char) :=
  let word := cs.takeWhile continuesIdentifier
  if isIdentifier word then some (String.ofList word, cs.dropWhile continuesIdentifier) else none

/-- The character with a hexadecimal number, unless it is half of a pair. -/
def character? (digits : List Char) : Option Char := do
  let values ← digits.mapM Hex.value?
  let number := values.foldl (fun number value => 16 * number + value) 0
  if number.isValidChar then some (Char.ofNat number) else none

/-- What a backslash and one character stand for. A line break is left out, and numbers of one digit
are not read. -/
def escaped? (c : Char) : Option (List Char) :=
  match c with
  | 'b' => some ['\x08']
  | 'f' => some ['\x0c']
  | 'n' => some ['\n']
  | 'r' => some ['\r']
  | 't' => some ['\t']
  | 'v' => some ['\x0b']
  | '\n' | '\r' | '\u2028' | '\u2029' => some []
  | 'x' | 'u' => none
  | c => if c.isDigit then none else some [c]

/-- Reads a string literal behind its opening quote. -/
def literal? : List Char → Option (List Char × List Char)
  | [] => none
  | '"' :: rest => some ([], rest)
  | '\\' :: 'x' :: a :: b :: rest => do
    let c ← character? [a, b]
    let (value, rest) ← literal? rest
    return (c :: value, rest)
  | '\\' :: 'u' :: a :: b :: c :: d :: rest => do
    let c ← character? [a, b, c, d]
    let (value, rest) ← literal? rest
    return (c :: value, rest)
  | '\\' :: c :: rest => do
    let cs ← escaped? c
    let (value, rest) ← literal? rest
    return (cs ++ value, rest)
  | c :: rest =>
    if c = '\\' ∨ c = '\n' ∨ c = '\r' then none
    else do
      let (value, rest) ← literal? rest
      return (c :: value, rest)

/-- Reads the name of a member. -/
def key? : List Char → Option (Key × List Char)
  | '"' :: rest => (literal? rest).map fun (value, rest) => (.literal (String.ofList value), rest)
  | cs => (word? cs).map fun (word, rest) => (.word word, rest)

/-- The characters of the name of a type, which may have dots in it. -/
def inType (c : Char) : Bool := continuesIdentifier c || c == '.'

/-- Reads the name of a type. -/
def type? (cs : List Char) : Option (String × List Char) :=
  let type := cs.takeWhile inType
  if type = [] then none else some (String.ofList type, cs.dropWhile inType)

/-- Reads a colon and a type. -/
def typed? (cs : List Char) : Option (String × List Char) :=
  match skip cs with
  | ':' :: rest => type? (skip rest)
  | _ => none

/-- Reads a parameter that nothing stands behind. -/
def parameter? (cs : List Char) : Option (String × String) := do
  let (name, rest) ← word? (skip cs)
  let (type, rest) ← typed? rest
  if skip rest = [] then some (name, type) else none

/-- Reads the parameters between two brackets. -/
def parameters? (cs : List Char) : Option (List (String × String)) :=
  if skip cs = [] then some [] else (cs.splitOnP (· == ',')).mapM parameter?

/-- Reads a colon, a type and the semicolon that ends a member. -/
def ending? (cs : List Char) : Option String := do
  let (type, rest) ← typed? cs
  if skip rest = [';'] then some type else none

/-- Reads a whole member. -/
def member? (cs : List Char) : Option InterfaceMember := do
  let (key, rest) ← key? (skip cs)
  match skip rest with
  | '(' :: rest =>
    let parameters ← parameters? (rest.takeWhile (· != ')'))
    let result ← ending? ((rest.dropWhile (· != ')')).drop 1)
    return if key = .word "new" then .construct parameters result
      else .method key.name parameters result
  | rest =>
    let type ← ending? rest
    return .property key.name type

/-! ## Reading names -/

/-- A run of characters is read up to something else. -/
theorem takeWhile_append {p : Char → Bool} {word rest : List Char} (inside : word.all p)
    (stop : ∀ c ∈ rest.head?, p c = false) : (word ++ rest).takeWhile p = word := by
  rw [List.all_eq_true] at inside
  rw [List.takeWhile_append_of_pos inside]
  cases rest with
  | nil => exact List.append_nil word
  | cons c rest => rw [List.takeWhile_cons_of_neg (by simp [stop c rfl]), List.append_nil]

theorem dropWhile_append {p : Char → Bool} {word rest : List Char} (inside : word.all p)
    (stop : ∀ c ∈ rest.head?, p c = false) : (word ++ rest).dropWhile p = rest := by
  rw [List.all_eq_true] at inside
  rw [List.dropWhile_append_of_pos inside]
  cases rest with
  | nil => rfl
  | cons c rest => rw [List.dropWhile_cons_of_neg (by simp [stop c rfl])]

/-- An identifier is read as a word. -/
theorem word?_of_isIdentifier {word : List Char} {c : Char} (h : isIdentifier word)
    (stop : continuesIdentifier c = false) (rest : List Char) :
    word? (word ++ c :: rest) = some (String.ofList word, c :: rest) := by
  have inside := Declarations.all_of_isIdentifier h
  have behind : ∀ d ∈ (c :: rest).head?, continuesIdentifier d = false := by simpa using stop
  unfold word?
  rw [takeWhile_append inside behind, dropWhile_append inside behind, if_pos h]

/-- A digit has the number that it was made for, also as one of four. -/
theorem character?_digits {n : Nat} (h : n < 0x20) :
    character? ['0', '0', Hex.digit (n / 16), Hex.digit (n % 16)] = some (Char.ofNat n) := by
  have all : ∀ k : Fin 32, character? ['0', '0', Hex.digit (k.val / 16), Hex.digit (k.val % 16)] =
      some (Char.ofNat k.val) := by decide
  exact all ⟨n, h⟩

/-- An escape of one character is read as what it stands for. -/
theorem literal?_short {c d : Char} (h : escaped? d = some [c]) (rest : List Char) :
    literal? ('\\' :: d :: rest) =
      (literal? rest).map fun (value, rest) => (c :: value, rest) := by
  rw [literal?, h]
  · cases literal? rest <;> rfl
  · rintro a b rest rfl
    cases h
  · rintro a b c d rest rfl
    cases h

/-- A character is read from what it was escaped to. -/
theorem literal?_escape (c : Char) (rest : List Char) : literal? (Quoted.escape c ++ rest) =
    (literal? rest).map fun (value, rest) => (c :: value, rest) := by
  unfold Quoted.escape
  split
  · next h => subst h; exact literal?_short rfl rest
  split
  · next h => subst h; exact literal?_short rfl rest
  split
  · next h => subst h; exact literal?_short rfl rest
  split
  · next h => subst h; exact literal?_short rfl rest
  split
  · next h => subst h; exact literal?_short rfl rest
  split
  · next h => subst h; exact literal?_short rfl rest
  split
  · next h => subst h; exact literal?_short rfl rest
  split
  · next control =>
    simp only [List.cons_append, List.nil_append, literal?, character?_digits control,
      Char.ofNat_toNat]
    cases literal? rest <;> rfl
  · next quote backslash _ _ newline lineEnd _ _ =>
    rw [List.singleton_append, literal?, if_neg (by simp [backslash, newline, lineEnd])]
    · cases literal? rest <;> rfl
    · exact quote
    · exact fun _ _ _ same _ => backslash same
    · exact fun _ _ _ _ _ same _ => backslash same
    · exact fun _ _ same _ => backslash same

/-- A literal is read as the text that it was made for. -/
theorem literal?_encodeChars (cs rest : List Char) :
    literal? (cs.flatMap Quoted.escape ++ '"' :: rest) = some (cs, rest) := by
  induction cs with
  | nil => rw [List.flatMap_nil, List.nil_append, literal?]
  | cons c cs ih => rw [List.flatMap_cons, List.append_assoc, literal?_escape, ih]; rfl

/-- A member name as it is read. -/
def keyOf (name : String) : Key :=
  if isIdentifier name.toList then .word name else .literal name

theorem name_keyOf (name : String) : (keyOf name).name = name := by
  unfold keyOf
  split <;> rfl

theorem keyOf_eq_new_iff (name : String) : keyOf name = .word "new" ↔ name = "new" := by
  unfold keyOf
  constructor
  · intro h
    split at h
    · exact Key.word.inj h
    · cases h
  · rintro rfl
    rw [if_pos (by decide)]

/-- The name of a member is read from what it was written as, in front of a bracket or a colon. -/
theorem key?_memberName (name : String) {c : Char} (stop : continuesIdentifier c = false)
    (rest : List Char) :
    key? ((Declarations.memberName name).toList ++ c :: rest) = some (keyOf name, c :: rest) := by
  unfold Declarations.memberName keyOf
  split
  · next bare =>
    have word := word?_of_isIdentifier bare stop rest
    rw [String.ofList_toList] at word
    unfold key?
    split
    · next same => exact absurd same (Declarations.append_ne_quote bare _ _)
    · rw [word]
      rfl
  · rw [Quoted.encode, String.toList_ofList, Quoted.encodeChars, List.cons_append,
      List.append_assoc, List.singleton_append, key?, literal?_encodeChars, Option.map_some]
    dsimp only
    rw [String.ofList_toList]

/-! ## Reading parameters and types -/

/-- Nothing is skipped in front of what is not blank. -/
theorem skip_cons {c : Char} (h : c.isWhitespace = false) (rest : List Char) :
    skip (c :: rest) = c :: rest :=
  List.dropWhile_cons_of_neg (by simp [h])

/-- A type is read up to something that is in no type. -/
theorem typed?_append (type : HostType) {rest : List Char}
    (stop : ∀ c ∈ rest.head?, inType c = false) :
    typed? (": ".toList ++ (type.text.toList ++ rest)) = some (type.text, rest) := by
  have inside : type.text.toList.all inType := by cases type <;> decide
  have named : type.text.toList ≠ [] := by cases type <;> decide
  have blank : skip (' ' :: (type.text.toList ++ rest)) = type.text.toList ++ rest := by
    cases type <;> rfl
  change type? (skip (' ' :: (type.text.toList ++ rest))) = _
  rw [blank, type?, takeWhile_append inside stop, dropWhile_append inside stop, if_neg named,
    String.ofList_toList]

/-- The name of a parameter. -/
theorem isIdentifier_parameter (i : Nat) : isIdentifier ("arg".toList ++ i.repr.toList) := by
  have digits : i.repr.toList.all continuesIdentifier := by
    rw [List.all_eq_true, Nat.toList_repr]
    intro c mem
    have digit := Nat.isDigit_of_mem_toDigits (by decide) (by decide) mem
    rw [continuesIdentifier, digit, Bool.or_true]
  have start : Declarations.startsIdentifier 'a' = true := by decide
  have letters : ['r', 'g'].all continuesIdentifier = true := by decide
  change isIdentifier ('a' :: (['r', 'g'] ++ i.repr.toList)) = true
  rw [isIdentifier, start, List.all_append, letters, digits]
  rfl

/-- A parameter of a method is read as it was written. -/
theorem parameter?_text (i : Nat) :
    parameter? (s!"arg{i}: {HostType.number.text}").toList = some (s!"arg{i}", "number") := by
  have text : (s!"arg{i}: {HostType.number.text}").toList =
      ("arg".toList ++ i.repr.toList) ++ ':' :: (" ".toList ++ "number".toList) := by
    simp only [String.toList_append, toString, HostType.text, String.reduceToList,
      List.append_assoc, List.cons_append, List.nil_append]
  have name : String.ofList ("arg".toList ++ i.repr.toList) = s!"arg{i}" := by
    rw [← String.toList_inj, String.toList_ofList]
    simp only [String.toList_append, toString, String.reduceToList, List.cons_append,
      List.nil_append]
  have word := word?_of_isIdentifier (isIdentifier_parameter i) (c := ':') (by decide)
    (" ".toList ++ "number".toList)
  have start : skip (("arg".toList ++ i.repr.toList) ++ ':' :: (" ".toList ++ "number".toList)) =
      ("arg".toList ++ i.repr.toList) ++ ':' :: (" ".toList ++ "number".toList) := rfl
  have type : typed? (':' :: (" ".toList ++ "number".toList)) = some ("number", []) :=
    typed?_append .number (by simp)
  rw [text, parameter?, start, word, name]
  simp only [bind, Option.bind, type]
  rfl

/-- A blank in front of a parameter is skipped. -/
theorem parameter?_blank (cs : List Char) : parameter? (' ' :: cs) = parameter? cs := rfl

/-! ## Reading members -/

/-- Whether there is no comma in a text. -/
def CommaFree (cs : List Char) : Prop := ∀ c ∈ cs, (c == ',') = false

/-- A text with commas and blanks between its pieces is split at the commas. -/
theorem splitOnP_intercalate {piece : List Char} {pieces : List (List Char)}
    (plain : ∀ p ∈ piece :: pieces, CommaFree p) :
    (", ".toList.intercalate (piece :: pieces)).splitOnP (· == ',') =
      piece :: pieces.map (' ' :: ·) := by
  induction pieces generalizing piece with
  | nil =>
    have single : ", ".toList.intercalate [piece] = piece := by simp [List.intercalate]
    rw [single]
    exact List.splitOnP_eq_singleton (plain piece List.mem_cons_self)
  | cons next pieces ih =>
    rw [List.forall_mem_cons, List.forall_mem_cons] at plain
    obtain ⟨first, second, others⟩ := plain
    have joined : ", ".toList.intercalate (piece :: next :: pieces) =
        piece ++ ',' :: ", ".toList.intercalate ((' ' :: next) :: pieces) := by
      cases pieces <;> simp [List.intercalate]
    have blank : CommaFree (' ' :: next) := List.forall_mem_cons.2 ⟨by decide, second⟩
    rw [joined, List.splitOnP_append_cons_of_forall_mem first ',' (by decide),
      ih (List.forall_mem_cons.2 ⟨blank, others⟩)]
    rfl

/-- The text of a parameter. -/
def parameterText (i : Nat) : List Char := (s!"arg{i}: {HostType.number.text}").toList

theorem commaFree_parameterText (i : Nat) : CommaFree (parameterText i) := by
  have none := Declarations.count_parameter (c := ',') (by decide) i
  rw [show "arg: number".toList.count ',' = 0 by decide, List.count_eq_zero] at none
  intro c mem
  exact beq_false_of_ne fun same => none (same ▸ mem)

theorem mapM_parameter? (indices : List Nat) :
    ((indices.map parameterText).map (' ' :: ·)).mapM parameter? =
      some (indices.map fun i => (s!"arg{i}", "number")) := by
  induction indices with
  | nil => rfl
  | cons i indices ih =>
    simp only [List.map_cons, List.mapM_cons, parameter?_blank, ih]
    rw [parameterText, parameter?_text]
    rfl

theorem toList_parameterList (arity : Nat) :
    (Declarations.parameterList (List.replicate arity .number)).toList =
      ", ".toList.intercalate ((List.range arity).map parameterText) := by
  have indexed : (List.replicate arity HostType.number).zipIdx =
      (List.range arity).map fun i => (HostType.number, i) := by
    apply List.ext_getElem <;> simp
  rw [Declarations.parameterList, String.toList_intercalate, indexed, List.map_map, List.map_map]
  rfl

/-- What is joined starts as its first piece. -/
theorem intercalate_cons_cons (sep : List Char) (c : Char) (piece : List Char)
    (pieces : List (List Char)) :
    ∃ rest, sep.intercalate ((c :: piece) :: pieces) = c :: rest := by
  cases pieces with
  | nil => exact ⟨piece, by simp [List.intercalate]⟩
  | cons next pieces => exact ⟨_, by simp [List.intercalate]; rfl⟩

/-- The parameters of a method are read as they were written. -/
theorem parameters?_parameterList (arity : Nat) :
    parameters? (Declarations.parameterList (List.replicate arity .number)).toList =
      some ((List.range arity).map fun i => (s!"arg{i}", "number")) := by
  rw [toList_parameterList]
  cases arity with
  | zero => rfl
  | succ arity =>
    have plain : ∀ p ∈ (List.range (arity + 1)).map parameterText, CommaFree p :=
      List.forall_mem_map.2 fun i _ => commaFree_parameterText i
    rw [List.range_succ_eq_map, List.map_cons] at plain ⊢
    obtain ⟨rest, start⟩ := intercalate_cons_cons ", ".toList 'a' "rg0: number".toList
      ((List.map Nat.succ (List.range arity)).map parameterText)
    have first : parameterText 0 = 'a' :: "rg0: number".toList := by decide
    rw [first] at plain ⊢
    have filled : skip (", ".toList.intercalate (('a' :: "rg0: number".toList) ::
        (List.map Nat.succ (List.range arity)).map parameterText)) ≠ [] := by
      rw [start, skip_cons (by decide)]
      exact List.cons_ne_nil _ _
    rw [parameters?, if_neg filled, splitOnP_intercalate plain, List.mapM_cons, mapM_parameter?,
      ← first, parameterText, parameter?_text]
    rfl

/-! ## Reading members -/

/-- No blank starts an identifier. -/
theorem isWhitespace_of_startsIdentifier {c : Char} (h : Declarations.startsIdentifier c) :
    c.isWhitespace = false := by
  by_contra blank
  rw [Bool.not_eq_false] at blank
  simp only [Char.isWhitespace, Bool.or_eq_true, decide_eq_true_eq] at blank
  rcases blank with ((rfl | rfl) | rfl) | rfl <;> cases h

/-- Nothing is skipped in front of the name of a member. -/
theorem skip_memberName (name : String) (rest : List Char) :
    skip ((Declarations.memberName name).toList ++ rest) =
      (Declarations.memberName name).toList ++ rest := by
  unfold Declarations.memberName
  split
  · next bare =>
    cases chars : name.toList with
    | nil =>
      rw [chars] at bare
      cases bare
    | cons c cs =>
      rw [chars, isIdentifier, Bool.and_eq_true] at bare
      exact skip_cons (isWhitespace_of_startsIdentifier bare.1) _
  · rw [Quoted.encode, String.toList_ofList]
    exact skip_cons (by decide) _

/-- The type that a function returns is read up to the end of the member. -/
theorem ending?_result (result : HostType) :
    ending? (": ".toList ++ (result.text.toList ++ [';'])) = some result.text := by
  have stop : ∀ c ∈ [';'].head?, inType c = false := by
    rw [List.head?_cons]
    rintro _ ⟨⟩
    decide
  rw [ending?, typed?_append result stop]
  rfl

/-- A function is read as a method of its own name, unless that is `new`. -/
theorem member?_memberText (name : String) (arity : Nat) (result : HostType) :
    member? (Declarations.memberText (HostMember.function name arity result).member).toList =
      some (if name = "new" then
          .construct ((List.range arity).map fun i => (s!"arg{i}", "number")) result.text
        else
          .method name ((List.range arity).map fun i => (s!"arg{i}", "number")) result.text) := by
  have inside := Declarations.all_parameterList arity
  rw [Declarations.toList_memberText_function, member?, skip_memberName,
    key?_memberName name (by decide)]
  simp only [bind, Option.bind, skip_cons (show '('.isWhitespace = false by decide)]
  rw [takeWhile_append inside (by simp), dropWhile_append inside (by simp),
    parameters?_parameterList, List.drop_one, List.tail_cons, ending?_result]
  simp only [pure, keyOf_eq_new_iff, name_keyOf]

end TypeScript

namespace Module

variable {m : Module} {index : UInt32} {s : Signature} {host : HostSignature}

/-- **A function is read as a method of its own name,** with a parameter for each of its own and
with the type that it returns, whatever the name is; only `new` is not taken for a name. -/
theorem method_read (found : m.signature? index = some s) (mapped : s.host = .ok host)
    (user : SignatureUser) (name : String) :
    ∃ member, m.method user name index = .ok member ∧
      TypeScript.member? (Declarations.memberText member).toList =
        some (if name = "new" then
            .construct ((List.range s.parameters.length).map fun i => (s!"arg{i}", "number"))
              host.result.text
          else .method name ((List.range s.parameters.length).map fun i => (s!"arg{i}", "number"))
            host.result.text) := by
  refine ⟨.method name host, ?_, ?_⟩
  · unfold method
    rw [found]
    dsimp only
    rw [mapped]
  · have member := Signature.host_eq_ok mapped name
    have result : host = ⟨_, _⟩ := (Member.method.inj member).2
    rw [member]
    refine (TypeScript.member?_memberText name _ _).trans ?_
    rw [result]

/-- A module with a signature of one parameter and no result. -/
def consumer : Module := { signatures := [⟨[.i32], []⟩] }

/-- A name with a quote in it stands as a literal. -/
theorem method_read_quoted : consumer.signature? 0 = some ⟨[.i32], []⟩ ∧
    Signature.host ⟨[.i32], []⟩ = .ok ⟨[.number], .void⟩ ∧
    ∃ member, consumer.method (.function 0) "with\"quote" 0 = .ok member ∧
      TypeScript.member? (Declarations.memberText member).toList =
        some (.method "with\"quote" [("arg0", "number")] "void") := by
  have found : consumer.signature? 0 = some ⟨[.i32], []⟩ := rfl
  have mapped : Signature.host ⟨[.i32], []⟩ = .ok ⟨[.number], .void⟩ := rfl
  obtain ⟨member, made, read⟩ := method_read found mapped (.function 0) "with\"quote"
  rw [if_neg (by decide)] at read
  exact ⟨found, mapped, member, made, read⟩

/-- **A function called `new` is not read as a method.** -/
theorem method_new_constructs : ∃ member, consumer.method (.function 0) "new" 0 = .ok member ∧
    Declarations.memberText member = "new(arg0: number): void;" ∧
    TypeScript.member? (Declarations.memberText member).toList =
      some (.construct [("arg0", "number")] "void") ∧
    ∀ name parameters result, TypeScript.member? (Declarations.memberText member).toList ≠
      some (.method name parameters result) := by
  have read := TypeScript.member?_memberText "new" 1 .void
  rw [if_pos rfl] at read
  refine ⟨(HostMember.function "new" 1 .void).member, rfl, by decide, read, ?_⟩
  intro name parameters result method
  rw [read] at method
  cases method

end Module

end WasmBindings
