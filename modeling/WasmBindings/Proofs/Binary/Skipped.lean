import WasmBindings.Proofs.Binary.Prefix

/-!
# Bytes that are passed over

Of some sections only the front is read: the name of a custom section, and the count in front of
globals and code. Others are not looked into at all. `Module.Alike` relates two binaries that differ
in such bytes and nowhere else. Reading them gives the same outcome, whatever is wrong with them,
because each reader is done with a payload before it comes to the bytes in question
(`Reader.contents_congr`).
-/

namespace WasmBindings

/-- Two payloads of sections with some id that differ at most in bytes that are passed over. -/
inductive RawSection.Alike (id : UInt8) : Bytes → Bytes → Prop
  | same (payload : Bytes) : Alike id payload payload
  /-- Behind the name of a custom section, which is a size and that many bytes. -/
  | named {size raw rest rest' : Bytes} : id = SectionKind.custom.id →
      Leb128.SpelledBy 32 raw.length size → rest.length = rest'.length →
      Alike id (size ++ (raw ++ rest)) (size ++ (raw ++ rest'))
  /-- Behind the number of globals or bodies. -/
  | counted {n : Nat} {count rest rest' : Bytes} :
      id = SectionKind.globals.id ∨ id = SectionKind.code.id → Leb128.SpelledBy 32 n count →
      rest.length = rest'.length → Alike id (count ++ rest) (count ++ rest')
  /-- Anywhere in a section that says nothing about the interface. -/
  | unread {payload payload' : Bytes} :
      id ∈ [SectionKind.start, .elements, .data, .dataCount].map SectionKind.id →
      payload.length = payload'.length → Alike id payload payload'

/-- Two rows of the same sections whose payloads are alike; what stands behind the last of them, if
it is no section, is the same. -/
inductive RawSection.RowsAlike : Bytes → Bytes → Prop
  | same (bytes : Bytes) : RowsAlike bytes bytes
  | cons {id : UInt8} {size payload payload' rest rest' : Bytes} :
      Leb128.SpelledBy 32 payload.length size → Alike id payload payload' → RowsAlike rest rest' →
      RowsAlike (id :: (size ++ (payload ++ rest))) (id :: (size ++ (payload' ++ rest')))

/-- Two binaries with a header and the same sections that differ at most in bytes that are passed
over. -/
def Module.Alike (binary binary' : Bytes) : Prop :=
  ∃ body body', binary = header ++ body ∧ binary' = header ++ body' ∧
    RawSection.RowsAlike body body'

theorem RawSection.Alike.length_eq {id : UInt8} {payload payload' : Bytes}
    (h : Alike id payload payload') : payload.length = payload'.length := by
  cases h with
  | same => rfl
  | named _ _ rest => simp only [List.length_append, rest]
  | counted _ _ rest => simp only [List.length_append, rest]
  | unread _ length => exact length

/-! ## Payloads -/

namespace Reader

/-- Passing over the rest of a window shows nothing but its length. -/
theorem skipRest_eq (c : Cursor) : skipRest c = .ok ((), ⟨c.offset + c.window.length, []⟩) := by
  unfold skipRest Cursor.advance Cursor.remaining
  rw [List.drop_length]

/-- Behind a leading part, what is passed over may be anything of the same length. -/
theorem skipRest_congr {r : Reader α} {offset offset' : Nat} {front rest rest' : Bytes} {a : α}
    (f : α → β) (length : rest.length = rest'.length)
    (run : ∀ rest, r ⟨offset, front ++ rest⟩ = .ok (a, ⟨offset', rest⟩)) :
    (r >>= fun a => skipRest >>= fun _ => pure (f a)) ⟨offset, front ++ rest⟩ =
      (r >>= fun a => skipRest >>= fun _ => pure (f a)) ⟨offset, front ++ rest'⟩ := by
  have done (rest : Bytes) : (r >>= fun a => skipRest >>= fun _ => pure (f a))
      ⟨offset, front ++ rest⟩ = .ok (f a, ⟨offset' + rest.length, []⟩) :=
    bind_eq_ok_iff.2 ⟨a, _, run rest, bind_eq_ok_iff.2 ⟨(), _, skipRest_eq _, rfl⟩⟩
  rw [done, done, length]

theorem u32_of_spelledBy {n offset : Nat} {count : Bytes} (spelled : Leb128.SpelledBy 32 n count)
    (rest : Bytes) :
    u32 ⟨offset, count ++ rest⟩ = .ok (UInt32.ofNat n, ⟨offset + count.length, rest⟩) := by
  refine (Accepts.u32 _ _ _).2 ⟨count, ?_, rfl, rfl⟩
  rwa [Spelling.U32, UInt32.toNat_ofNat_of_lt' spelled.fits]

/-- A name is judged by its own bytes, whatever follows them. -/
theorem name_of_spelledBy {offset : Nat} {size raw : Bytes}
    (spelled : Leb128.SpelledBy 32 raw.length size) (rest : Bytes) :
    name ⟨offset, size ++ (raw ++ rest)⟩ =
      text (offset + size.length) raw ⟨offset + size.length + raw.length, rest⟩ := by
  have held : bytes (UInt32.ofNat raw.length).toNat ⟨offset + size.length, raw ++ rest⟩ =
      .ok (raw, ⟨offset + size.length + raw.length, rest⟩) := by
    rw [UInt32.toNat_ofNat_of_lt' spelled.fits]
    exact (Accepts.bytes _ _ _ _).2 ⟨raw, ⟨rfl, rfl⟩, rfl, rfl⟩
  change (u32 ⟨offset, size ++ (raw ++ rest)⟩ >>= _) = _
  rw [u32_of_spelledBy spelled]
  change (bytes (UInt32.ofNat raw.length).toNat ⟨offset + size.length, raw ++ rest⟩ >>= _) = _
  rw [held]
  rfl

/-- Payloads that are alike are read alike. -/
theorem contents_congr {kind : SectionKind} {payload payload' : Bytes}
    (h : RawSection.Alike kind.id payload payload') (offset : Nat) :
    contents kind ⟨offset, payload⟩ = contents kind ⟨offset, payload'⟩ := by
  cases h with
  | same => rfl
  | @named size raw rest rest' custom spelled length =>
    obtain rfl := SectionKind.id_injective custom
    cases decoded : Utf8.decode? raw with
    | some text =>
      -- the name is read, and the rest is passed over
      have run (rest : Bytes) : name ⟨offset, (size ++ raw) ++ rest⟩ =
          .ok (text, ⟨offset + size.length + raw.length, rest⟩) := by
        rw [List.append_assoc, name_of_spelledBy spelled, Reader.text, decoded]
        rfl
      have same := skipRest_congr Contents.custom length run
      rwa [List.append_assoc, List.append_assoc] at same
    | none =>
      have failed (rest : Bytes) : contents .custom ⟨offset, size ++ (raw ++ rest)⟩ =
          .error (.malformedUtf8 (offset + size.length)) := by
        change (name ⟨offset, size ++ (raw ++ rest)⟩ >>= _) = _
        rw [name_of_spelledBy spelled, Reader.text, decoded]
        rfl
      rw [failed, failed]
  | @counted n count rest rest' counts spelled length =>
    have run (rest : Bytes) := @u32_of_spelledBy n offset count spelled rest
    rcases counts with same | same
    · obtain rfl := SectionKind.id_injective same
      change (countOnly >>= fun n => pure (Contents.globals n)) _ =
        (countOnly >>= fun n => pure (Contents.globals n)) _
      rw [countOnly_bind]
      exact skipRest_congr Contents.globals length run
    · obtain rfl := SectionKind.id_injective same
      change (countOnly >>= fun n => pure (Contents.code n)) _ =
        (countOnly >>= fun n => pure (Contents.code n)) _
      rw [countOnly_bind]
      exact skipRest_congr Contents.code length run
  | unread passed length =>
    have run : contents kind = (skipRest >>= fun _ => pure .skipped) := by
      cases kind <;> first | rfl | exact absurd passed (by decide)
    have done (payload : Bytes) : contents kind ⟨offset, payload⟩ =
        .ok (.skipped, ⟨offset + payload.length, []⟩) := by
      rw [run]
      exact bind_eq_ok_iff.2 ⟨(), _, skipRest_eq _, rfl⟩
    rw [done, done, length]

end Reader

/-! ## Sections -/

theorem Frame.contents_congr {kind : SectionKind} {payload payload' : Bytes}
    (h : RawSection.Alike kind.id payload payload') (offset inner : Nat) :
    Frame.contents ⟨offset, kind.id, ⟨inner, payload⟩⟩ kind =
      Frame.contents ⟨offset, kind.id, ⟨inner, payload'⟩⟩ kind := by
  unfold Frame.contents Frame.size Cursor.remaining
  simp only [StateT.run, Reader.contents_congr h inner, h.length_eq]

namespace Draft

theorem step_congr {id : UInt8} {payload payload' : Bytes}
    (h : RawSection.Alike id payload payload') (d : Draft) (offset inner : Nat) :
    d.step ⟨offset, id, ⟨inner, payload⟩⟩ = d.step ⟨offset, id, ⟨inner, payload'⟩⟩ := by
  -- whether a section is acceptable depends on its id and its place only
  change (d.accept ⟨offset, id, ⟨inner, payload⟩⟩ >>= _) =
    (d.accept ⟨offset, id, ⟨inner, payload⟩⟩ >>= _)
  cases accepted : d.accept ⟨offset, id, ⟨inner, payload⟩⟩ with
  | error e => rfl
  | ok kind =>
    obtain rfl := (accept_eq_ok_iff.1 accepted).1
    change (Frame.contents _ kind >>= _) = (Frame.contents _ kind >>= _)
    rw [Frame.contents_congr h]

/-- Rows of sections that are alike are read alike. -/
theorem sections_congr {bytes bytes' : Bytes} (h : RawSection.RowsAlike bytes bytes') (d : Draft)
    (offset : Nat) : d.sections ⟨offset, bytes⟩ = d.sections ⟨offset, bytes'⟩ := by
  induction h generalizing d offset with
  | same => rfl
  | @cons id size payload payload' rest rest' spelled alike _ ih =>
    have spelled' : Leb128.SpelledBy 32 payload'.length size := alike.length_eq ▸ spelled
    rw [sections_cons (s := ⟨id, payload⟩) spelled, sections_cons (s := ⟨id, payload'⟩) spelled']
    dsimp only
    rw [step_congr alike, alike.length_eq]
    cases d.step ⟨offset, id, ⟨offset + (1 + size.length), payload'⟩⟩ with
    | error e => rfl
    | ok d₁ => exact ih d₁ _

end Draft

namespace Module

/-- **What is passed over has no influence on the outcome: binaries that differ in nothing else give
the same module or the same error.** -/
theorem decode_eq_of_alike {binary binary' : Bytes} (h : Alike binary binary') :
    decode binary = decode binary' := by
  obtain ⟨body, body', rfl, rfl, alike⟩ := h
  rw [decode_header_append, decode_header_append, Draft.sections_congr alike]

/-- A custom section, a start section and a body for no function, with other bytes behind the name,
as the start function and as the body. -/
theorem decode_eq_of_alike_bodies :
    decode (header ++ [0x00, 0x03, 0x01, 0x61, 0xde, 0x08, 0x01, 0x00, 0x0a, 0x03, 0x01, 0x01, 0x0b])
      = .error (.functionBodyMismatch 0 1) ∧
    decode (header ++ [0x00, 0x03, 0x01, 0x61, 0xad, 0x08, 0x01, 0x7f, 0x0a, 0x03, 0x01, 0xff, 0xff])
      = .error (.functionBodyMismatch 0 1) := by
  have name : RawSection.Alike 0 [0x01, 0x61, 0xde] [0x01, 0x61, 0xad] :=
    @RawSection.Alike.named 0 [0x01] [0x61] [0xde] [0xad] rfl
      (Leb128.spelledBy_singleton 1 (by decide)) rfl
  have start : RawSection.Alike 8 [0x00] [0x7f] := .unread (by decide) rfl
  have bodies : RawSection.Alike 10 [0x01, 0x01, 0x0b] [0x01, 0xff, 0xff] :=
    @RawSection.Alike.counted 10 1 [0x01] [0x01, 0x0b] [0xff, 0xff] (.inr rfl)
      (Leb128.spelledBy_singleton 1 (by decide)) rfl
  have rows := @RawSection.RowsAlike.cons 0 [0x03] [0x01, 0x61, 0xde] _ _ _
    (Leb128.spelledBy_singleton 3 (by decide)) name
    (@RawSection.RowsAlike.cons 8 [0x01] [0x00] _ _ _
      (Leb128.spelledBy_singleton 1 (by decide)) start
      (@RawSection.RowsAlike.cons 10 [0x03] [0x01, 0x01, 0x0b] _ _ _
        (Leb128.spelledBy_singleton 3 (by decide)) bodies (.same [])))
  have failed : decode (header ++ [0x00, 0x03, 0x01, 0x61, 0xde, 0x08, 0x01, 0x00, 0x0a, 0x03,
      0x01, 0x01, 0x0b]) = .error (.functionBodyMismatch 0 1) := by cbv
  exact ⟨failed, (decode_eq_of_alike ⟨_, _, rfl, rfl, rows⟩).symm.trans failed⟩

end Module

end WasmBindings
