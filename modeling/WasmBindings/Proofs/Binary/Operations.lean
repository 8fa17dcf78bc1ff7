import WasmBindings.Proofs.Binary.CheckedDecode
import WasmBindings.Proofs.Binary.Decode

/-!
# Any operations in any order

Reading a module uses the operations of a cursor in one order only. Here they are used in any order.
A `Program` is whatever can be put together from them, the items of a vector being programs again,
and it is run twice: on windows, and by positions. `Program.Reads` says which bytes stand for what a
program gives, so that a position can be compared with the bytes that were read on the way to it.

A machine keeps every cursor that it ever had, starting with the one over the whole buffer, and an
`Operation` may pick any of them, run a program there or split it. An operation that reports an
error leaves the cursors as they are. The invariant of the machine is that its cursors are in
bounds, and whatever may be done with such a cursor next goes well (`Cursor.InBounds.serves`).
-/

namespace WasmBindings

/-- What some bytes that start at an offset may stand for. -/
abbrev Reading (α : Type) := Nat → α → Bytes → Prop

/-- A row of items, each of which starts where the one before it ends. -/
inductive Reading.Row (R : Reading α) : Reading (List α)
  | nil {start : Nat} : Row R start [] []
  | cons {start : Nat} {a : α} {items : List α} {front back : Bytes} : R start a front →
      Row R (start + front.length) items back → Row R start (a :: items) (front ++ back)

namespace Reader

/-- How many bytes are left. -/
def remaining : Reader Nat := return (← get).remaining

/-- Reads the front of the next `count` bytes and passes over all of them. -/
def inside (count : Nat) (r : Reader α) : Reader α := do
  let part ← window count
  fun c => (r part).map fun p => (p.1, c)

/-- Whenever the reader succeeds, it takes bytes off the window that stand for what it gives. -/
def Takes (r : Reader α) (R : Reading α) : Prop :=
  ∀ c a c', r c = .ok (a, c') →
    ∃ taken, R c.offset a taken ∧ c.window = taken ++ c'.window ∧
      c'.offset = c.offset + taken.length

theorem Accepts.takes {r : Reader α} {S : Spelling α} (h : Accepts r S) :
    Takes r (fun _ => S) := fun c a c' => (h c a c').1

namespace Takes

/-- Nothing is taken if the cursor stays. -/
theorem nothing {r : Reader α} {R : Reading α}
    (h : ∀ c a c', r c = .ok (a, c') → c' = c ∧ R c.offset a []) : Takes r R := by
  intro c a c' run
  obtain ⟨rfl, read⟩ := h c a c' run
  exact ⟨[], read, rfl, rfl⟩

protected theorem bind {r : Reader α} {R : Reading α} {f : α → Reader β} {T : α → Reading β}
    (first : Takes r R) (second : ∀ a, Takes (f a) (T a)) :
    Takes (r >>= f) (fun start b bytes => ∃ a front back, R start a front ∧
      T a (start + front.length) b back ∧ bytes = front ++ back) := by
  intro c b c' run
  obtain ⟨a, c₁, run₁, run₂⟩ := bind_eq_ok_iff.1 run
  obtain ⟨front, ha, hw, ho⟩ := first c a c₁ run₁
  obtain ⟨back, hb, hw', ho'⟩ := second a c₁ b c' run₂
  refine ⟨front ++ back, ⟨a, front, back, ha, ho ▸ hb, rfl⟩, ?_, ?_⟩
  · rw [hw, hw', List.append_assoc]
  · rw [ho', ho, List.length_append, Nat.add_assoc]

protected theorem times {r : Reader α} {R : Reading α} (h : Takes r R) (count : Nat) :
    Takes (Reader.times r count)
      (fun start items bytes => items.length = count ∧ Reading.Row R start items bytes) := by
  induction count with
  | zero =>
    refine nothing fun c items c' run => ?_
    obtain ⟨rfl, rfl⟩ := pure_eq_ok_iff.1 run
    exact ⟨rfl, rfl, .nil⟩
  | succ count ih =>
    intro c items c' run
    obtain ⟨a, c₁, run₁, rest⟩ := bind_eq_ok_iff.1 run
    obtain ⟨others, c₂, run₂, last⟩ := bind_eq_ok_iff.1 rest
    obtain ⟨rfl, rfl⟩ := pure_eq_ok_iff.1 last
    obtain ⟨front, ha, hw, ho⟩ := h c a c₁ run₁
    obtain ⟨back, ⟨length, row⟩, hw', ho'⟩ := ih c₁ others c' run₂
    refine ⟨front ++ back, ⟨congrArg (· + 1) length, .cons ha (ho ▸ row)⟩, ?_, ?_⟩
    · rw [hw, hw', List.append_assoc]
    · rw [ho', ho, List.length_append, Nat.add_assoc]

/-- The reader of a vector takes the count and then a row of items. -/
protected theorem vector {r : Reader α} {R : Reading α} (h : Takes r R) :
    Takes (Reader.vector r) (fun start items bytes => ∃ count body,
      Leb128.SpelledBy 32 items.length count ∧
      Reading.Row R (start + count.length) items body ∧ bytes = count ++ body) := by
  intro c items c' run
  obtain ⟨taken, ⟨count, front, back, spelled, ⟨length, row⟩, rfl⟩, hw, ho⟩ :=
    (Accepts.u32.takes.bind fun count => h.times count.toNat) c items c' run
  exact ⟨front ++ back, ⟨front, back, length ▸ spelled, row, rfl⟩, hw, ho⟩

/-- What is read of a part is read in front of what is passed over. -/
protected theorem inside {r : Reader α} {R : Reading α} (h : Takes r R) (count : Nat) :
    Takes (Reader.inside count r) (fun start a bytes => ∃ front back, R start a front ∧
      bytes = front ++ back ∧ bytes.length = count) := by
  intro c a c' run
  obtain ⟨part, c₁, cut, run₁⟩ := bind_eq_ok_iff.1 run
  obtain ⟨length, hw, ho, ho'⟩ := window_eq_ok_iff.1 cut
  cases read : r part with
  | error e =>
    rw [read] at run₁
    cases run₁
  | ok p =>
    rw [read] at run₁
    cases run₁
    obtain ⟨front, ha, hw', _⟩ := h part p.1 p.2 read
    exact ⟨part.window, ⟨front, p.2.window, ho ▸ ha, hw', length⟩, hw, by rw [ho', length]⟩

end Takes

end Reader

namespace Checked

/-- Reads the front of the next `count` bytes and passes over all of them. -/
def inside (count : Nat) (x : Reader α) : Reader α := do
  let part ← split count
  fun c => (x part).map fun p => (p.1, c)

protected theorem Simulates.remaining : Simulates Eq remaining Reader.remaining :=
  fun c within => .inl ⟨_, _, c, .refl within, rfl, remaining_run within, rfl⟩

protected theorem Simulates.inside {x : Reader α} {r : WasmBindings.Reader α}
    (h : Simulates Eq x r) (count : Nat) :
    Simulates Eq (inside count x) (Reader.inside count r) := by
  refine (Simulates.split count).bind fun part _ given => ?_
  obtain ⟨within, rfl, _⟩ := given
  intro c inBounds
  rcases h part within with ⟨a, b, c', _, same, hx, hr⟩ | ⟨e, hx, hr⟩
  · rw [hx, hr]
    exact .inl ⟨a, b, c, .refl inBounds, same, rfl, rfl⟩
  · rw [hx, hr]
    exact .inr ⟨e, rfl, rfl⟩

/-- What can be put together from the operations of a cursor. -/
inductive Program : Type → Type 1
  | done {α : Type} (a : α) : Program α
  | fail {α : Type} (e : FormatError) : Program α
  | offset : Program Nat
  | remaining : Program Nat
  | byte : Program UInt8
  | word : Program UInt32
  | u32 : Program UInt32
  | u64 : Program UInt64
  | bytes (count : Nat) : Program Bytes
  | skip (count : Nat) : Program Unit
  | name : Program String
  | vector {α : Type} (item : Program α) : Program (List α)
  | inside {α : Type} (count : Nat) (part : Program α) : Program α
  | andThen {α β : Type} (first : Program α) (next : α → Program β) : Program β

namespace Program

/-- Runs a program on a window. -/
def reader : Program α → WasmBindings.Reader α
  | .done a => pure a
  | .fail e => throw e
  | .offset => Reader.offset
  | .remaining => Reader.remaining
  | .byte => Reader.byte
  | .word => Reader.word
  | .u32 => Reader.u32
  | .u64 => Reader.u64
  | .bytes count => Reader.bytes count
  | .skip count => Reader.skip count
  | .name => Reader.name
  | .vector item => Reader.vector item.reader
  | .inside count part => Reader.inside count part.reader
  | .andThen first next => first.reader >>= fun a => (next a).reader

/-- Runs a program by positions. -/
def checked : Program α → Reader α
  | .done a => pure a
  | .fail e => fault e
  | .offset => Checked.offset
  | .remaining => Checked.remaining
  | .byte => Checked.byte
  | .word => Checked.word
  | .u32 => Checked.u32
  | .u64 => Checked.u64
  | .bytes count => Checked.bytes count
  | .skip count => Checked.skip count
  | .name => Checked.name
  | .vector item => Checked.vector item.checked
  | .inside count part => Checked.inside count part.checked
  | .andThen first next => first.checked >>= fun a => (next a).checked

/-- Which bytes stand for what a program gives. -/
def Reads : Program α → Reading α
  | .done a, _, b, taken => b = a ∧ taken = []
  | .fail _, _, _, _ => False
  | .offset, start, n, taken => n = start ∧ taken = []
  | .remaining, _, _, taken => taken = []
  | .byte, _, b, taken => taken = [b]
  | .word, _, n, taken => taken.length = 4 ∧
      n = UInt32.ofNat (taken.foldr (fun b high => b.toNat + 256 * high) 0)
  | .u32, _, n, taken => Spelling.U32 n taken
  | .u64, _, n, taken => Spelling.U64 n taken
  | .bytes count, _, raw, taken => taken = raw ∧ raw.length = count
  | .skip count, _, _, taken => taken.length = count
  | .name, _, text, taken => Spelling.Name text taken
  | .vector item, start, items, taken => ∃ count body,
      Leb128.SpelledBy 32 items.length count ∧
      Reading.Row item.Reads (start + count.length) items body ∧ taken = count ++ body
  | .inside count part, start, a, taken => ∃ front back, part.Reads start a front ∧
      taken = front ++ back ∧ taken.length = count
  | .andThen first next, start, b, taken => ∃ a front back, first.Reads start a front ∧
      (next a).Reads (start + front.length) b back ∧ taken = front ++ back

/-- By positions a program does what it does on the window. -/
theorem simulates (p : Program α) : Simulates Eq p.checked p.reader := by
  induction p with
  | done a => exact Simulates.pure rfl
  | fail e => exact Simulates.fault e
  | offset => exact Simulates.offset
  | remaining => exact Simulates.remaining
  | byte => exact Simulates.byte
  | word => exact Simulates.word
  | u32 => exact Simulates.u32
  | u64 => exact Simulates.u64
  | bytes count => exact Simulates.bytes count
  | skip count => exact Simulates.skip count
  | name => exact Simulates.name
  | vector item ih => exact ih.vector
  | inside count part ih => exact ih.inside count
  | andThen first next ih ihs => exact ih.next ihs

/-- A program takes off a window the bytes that it reads. -/
theorem takes (p : Program α) : Reader.Takes p.reader p.Reads := by
  induction p with
  | done a => exact (Reader.Accepts.pure a).takes
  | fail e => exact (Reader.Accepts.throw e).takes
  | offset =>
    refine .nothing fun c n c' run => ?_
    obtain ⟨rfl, rfl⟩ := Reader.offset_eq_ok_iff.1 run
    exact ⟨rfl, rfl, rfl⟩
  | remaining =>
    refine .nothing fun c n c' run => ?_
    cases run
    exact ⟨rfl, rfl⟩
  | byte => exact Reader.Accepts.byte.takes
  | word => exact Reader.Accepts.word.takes
  | u32 => exact Reader.Accepts.u32.takes
  | u64 => exact Reader.Accepts.u64.takes
  | bytes count => exact (Reader.Accepts.bytes count).takes
  | skip count =>
    intro c _ c' run
    obtain ⟨taken, ⟨raw, ⟨rfl, length⟩, _⟩, hw, ho⟩ :=
      ((Reader.Accepts.bytes count).map fun _ => ()).takes c () c' run
    exact ⟨taken, length, hw, ho⟩
  | name => exact Reader.Accepts.name.takes
  | vector item ih => exact ih.vector
  | inside count part ih => exact ih.inside count
  | andThen first next ih ihs => exact ih.bind ihs

end Program

/-! ## The machine -/

/-- One thing to do with a cursor. -/
inductive Operation : Type 1
  /-- Runs a program. -/
  | read (place : Nat) {α : Type} (p : Program α)
  /-- Splits the cursor. -/
  | split (place count : Nat)

namespace Operation

/-- The cursors that an operation makes of one. -/
def results : Operation → Cursor → Except Halt (List Cursor)
  | .read _ p, c => do
    let (_, next) ← p.checked c
    return [next]
  | .split _ count, c => do
    let (part, rest) ← Checked.split count c
    return [part, rest]

/-- Which cursor of the machine is picked. -/
def place : Operation → Nat
  | .read place _ => place
  | .split place _ => place

/-- Does one operation. What it makes is put in front; an error that is reported changes nothing. -/
def step (stack : List Cursor) (op : Operation) : Except Halt (List Cursor) :=
  match stack[op.place]? with
  | none => .ok stack
  | some c =>
    match op.results c with
    | .ok made => .ok (made ++ stack)
    | .error (.fault _) => .ok stack
    | .error .panic => .error .panic

/-- Does one operation after the other. -/
def run (ops : List Operation) (stack : List Cursor) : Except Halt (List Cursor) :=
  ops.foldlM step stack

end Operation

/-- What a cursor over a part of a buffer is good for. -/
structure Cursor.Serves (buffer : Bytes) (c : Cursor) : Prop where
  /-- It is a cursor over this buffer. -/
  same : c.buffer = buffer
  /-- The positions are in order and in the buffer. -/
  inBounds : c.pos ≤ c.stop ∧ c.stop ≤ buffer.length
  /-- A program reports the error that it meets on the window, or it gives what it gives there and
  moves the position by the bytes that it reads. -/
  reads : ∀ {α : Type} (p : Program α),
    (∃ e, p.checked c = .error (.fault e) ∧ p.reader c.view = .error e) ∨
    ∃ a taken rest, p.checked c = .ok (a, { c with pos := c.pos + taken.length }) ∧
      p.reader c.view = .ok (a, ⟨c.pos + taken.length, rest⟩) ∧
      p.Reads c.pos a taken ∧ c.view.window = taken ++ rest
  /-- The two sides of a split are the bytes before and behind one place. -/
  splits : ∀ count, c.pos + count ≤ c.stop →
    Checked.split count c =
      .ok ({ c with stop := c.pos + count }, { c with pos := c.pos + count }) ∧
    c.view.window = (view { c with stop := c.pos + count }).window ++
      (view { c with pos := c.pos + count }).window
  /-- Without enough bytes a split reports how many are missing. -/
  refuses : ∀ count, c.stop < c.pos + count → Checked.split count c =
    .error (.fault (.unexpectedEnd c.pos (count - (c.stop - c.pos))))

/-- Whatever is done with a cursor in bounds goes well. -/
theorem Cursor.InBounds.serves {c : Cursor} (h : c.InBounds) : c.Serves c.buffer where
  same := rfl
  inBounds := h
  reads := by
    intro α p
    rcases p.simulates c h with ⟨a, _, c', on, rfl, hx, hr⟩ | failed
    · obtain ⟨taken, read, hw, ho⟩ := p.takes _ _ _ hr
      obtain ⟨buffer, pos, stop⟩ := c'
      obtain rfl : buffer = c.buffer := on.buffer
      obtain rfl : stop = c.stop := on.stop
      obtain rfl : pos = c.pos + taken.length := ho
      exact .inr ⟨a, taken, _, hx, hr, read, hw⟩
    · exact .inl failed
  splits := by
    intro count enough
    have room := h.enough_iff.2 enough
    have made : Cursor.make c.buffer c.pos (c.pos + count) =
        .ok { c with stop := c.pos + count } := if_pos (h.inBounds_bounded room)
    refine ⟨sized_eq h room made, ?_⟩
    rw [h.view_bounded room, c.view_advance]
    exact (List.take_append_drop count c.view.window).symm
  refuses := by
    intro count short
    have short' := Nat.lt_of_not_le (mt h.enough_iff.1 (Nat.not_le.2 short))
    rw [← h.remaining_view]
    exact sized_of_short h short' _

-- out of bounds the same read is a panic
example : Checked.byte ⟨[], 0, 1⟩ = .error .panic := rfl

namespace Operation

/-- The cursors are over parts of one buffer. -/
def Over (buffer : Bytes) (stack : List Cursor) : Prop :=
  ∀ c ∈ stack, c.buffer = buffer ∧ c.InBounds

variable {buffer : Bytes}

/-- An operation reports an error, or it makes cursors over parts of the same buffer. -/
theorem results_over (op : Operation) {c : Cursor} (same : c.buffer = buffer)
    (within : c.InBounds) :
    (∃ e, op.results c = .error (.fault e)) ∨
      ∃ made, op.results c = .ok made ∧ Over buffer made := by
  cases op with
  | read place p =>
    rcases p.simulates c within with ⟨a, _, next, on, _, hx, _⟩ | ⟨e, hx, _⟩
    · refine .inr ⟨[next], ?_, fun c mem => ?_⟩
      · change (p.checked c >>= _) = _
        rw [hx]
        rfl
      · obtain rfl := List.mem_singleton.1 mem
        exact ⟨on.buffer.trans same, within.of_reaches on⟩
    · refine .inl ⟨e, ?_⟩
      change (p.checked c >>= _) = _
      rw [hx]
      rfl
  | split place count =>
    by_cases enough : c.pos + count ≤ c.stop
    · have room := within.enough_iff.2 enough
      refine .inr ⟨[{ c with stop := c.pos + count }, { c with pos := c.pos + count }], ?_,
        fun c mem => ?_⟩
      · change (Checked.split count c >>= _) = _
        rw [(within.serves.splits count enough).1]
        rfl
      · simp only [List.mem_cons, List.not_mem_nil, or_false] at mem
        rcases mem with rfl | rfl
        · exact ⟨same, within.inBounds_bounded room⟩
        · exact ⟨same, within.of_reaches (within.reaches_advance room)⟩
    · refine .inl ⟨.unexpectedEnd c.pos (count - (c.stop - c.pos)), ?_⟩
      change (Checked.split count c >>= _) = _
      rw [within.serves.refuses count (Nat.lt_of_not_le enough)]
      rfl

/-- One operation never panics, and all cursors are in bounds after it. -/
theorem step_over {stack : List Cursor} (all : Over buffer stack) (op : Operation) :
    ∃ stack', step stack op = .ok stack' ∧ Over buffer stack' := by
  cases picked : stack[op.place]? with
  | none =>
    refine ⟨stack, ?_, all⟩
    unfold step
    rw [picked]
  | some c =>
    obtain ⟨same, within⟩ := all c (List.mem_of_getElem? picked)
    rcases op.results_over same within with ⟨e, failed⟩ | ⟨made, done, new⟩
    · refine ⟨stack, ?_, all⟩
      unfold step
      simp only [picked, failed]
    · refine ⟨made ++ stack, ?_, fun c mem => ?_⟩
      · unfold step
        simp only [picked, done]
      · exact (List.mem_append.1 mem).elim (new c) (all c)

/-- Nor does any run of the machine. -/
theorem run_over (ops : List Operation) {stack : List Cursor} (all : Over buffer stack) :
    ∃ stack', run ops stack = .ok stack' ∧ Over buffer stack' := by
  induction ops generalizing stack with
  | nil => exact ⟨stack, rfl, all⟩
  | cons op ops ih =>
    obtain ⟨next, first, all'⟩ := step_over all op
    unfold run
    rw [List.foldlM_cons, first]
    exact ih all'

end Operation

/-- **No operation is ever used outside of its domain**, neither when a module is read nor by any
other use of the cursors over a buffer. -/
theorem operations_stay_in_bounds (binary : Bytes) :
    decode binary = (Module.decode binary).mapError .fault ∧ decode binary ≠ .error .panic ∧
      ∀ ops, ∃ stack, Operation.run ops [.whole binary] = .ok stack ∧
        ∀ c ∈ stack, c.Serves binary := by
  have same := decode_eq binary
  refine ⟨same, ?_, fun ops => ?_⟩
  · rw [same]
    intro panicked
    cases run : Module.decode binary with
    | error e =>
      rw [run] at panicked
      cases panicked
    | ok m =>
      rw [run] at panicked
      cases panicked
  · have whole : Operation.Over binary [.whole binary] := by
      intro c mem
      obtain rfl := List.mem_singleton.1 mem
      exact ⟨rfl, Cursor.inBounds_whole binary⟩
    obtain ⟨stack, run, all⟩ := Operation.run_over ops whole
    refine ⟨stack, run, fun c mem => ?_⟩
    obtain ⟨rfl, within⟩ := all c mem
    exact within.serves

end Checked

end WasmBindings
