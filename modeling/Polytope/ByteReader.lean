import Mathlib.Data.List.Basic
import Mathlib.Tactic.Ring

/-! Readers of a byte stream. A reader takes a value off the front or stops with an error. Reads says
that the bytes of a value give the value back whatever follows them, Yields what every value a reader
returns is like; both are closed under sequencing and counted repetition. -/
namespace Polytope.ByteReader

abbrev Bytes := List UInt8
abbrev Reader (ε α : Type) := StateT Bytes (Except ε) α

def take {ε : Type} (count : Nat) (short : ε) : Reader ε Bytes := fun bytes =>
  if bytes.length < count then .error short else .ok (bytes.take count,bytes.drop count)
def readMany {ε α : Type} (read : Reader ε α) : (count : Nat) → Reader ε {xs : List α // xs.length = count}
  | 0 => pure ⟨[],rfl⟩
  | count + 1 => do
    let x ← read
    let xs ← readMany read count
    pure ⟨x::xs.1,congrArg (· + 1) xs.2⟩

def Reads {ε α : Type} (read : Reader ε α) (bytes : Bytes) (value : α) : Prop :=
  ∀ rest, read (bytes ++ rest) = .ok (value,rest)
def Yields {ε α : Type} (read : Reader ε α) (good : α → Prop) : Prop :=
  ∀ bytes value rest, read bytes = .ok (value,rest) → good value

section
variable {ε α β : Type} {read : Reader ε α} {next : α → Reader ε β}

theorem bindRun (bytes : Bytes) : (read >>= next) bytes = (read bytes >>= fun out => next out.1 out.2) := rfl
theorem readsPure (value : α) : Reads (pure value : Reader ε α) [] value := fun _ => rfl
theorem readsBind {bytes more : Bytes} {x : α} {y : β} (first : Reads read bytes x)
    (second : Reads (next x) more y) :
    Reads (read >>= next) (bytes ++ more) y := by
  intro rest
  rw [bindRun,List.append_assoc,first]
  exact second rest
theorem readsLast {bytes : Bytes} {x : α} {f : α → β} (first : Reads read bytes x) :
    Reads (read >>= fun x => pure (f x)) bytes (f x) := by
  have whole : Reads (read >>= fun x => pure (f x)) (bytes ++ []) (f x) := readsBind first (readsPure (f x))
  rwa [List.append_nil] at whole
theorem readsTake (bytes : Bytes) (short : ε) : Reads (take bytes.length short) bytes bytes := by
  intro rest
  simp [take]
theorem readsMany {encode : α → Bytes} {xs : List α} {count : Nat} (size : xs.length = count)
    (each : ∀ x ∈ xs, Reads read (encode x) x) : Reads (readMany read count) (xs.flatMap encode) ⟨xs,size⟩ := by
  induction xs generalizing count with
  | nil =>
    subst size
    exact readsPure _
  | cons x xs ih =>
    subst size
    rw [List.flatMap_cons]
    exact readsBind (each x List.mem_cons_self)
      (readsLast (ih rfl fun y mem => each y (List.mem_cons_of_mem _ mem)))

theorem yieldsBind {g : α → Prop} {fine : β → Prop} (first : Yields read g)
    (second : ∀ x, g x → Yields (next x) fine) :
    Yields (read >>= next) fine := by
  intro bytes value rest out
  rw [bindRun] at out
  cases run : read bytes with
  | error exit =>
    rw [run] at out
    cases out
  | ok mid =>
    rw [run] at out
    exact second mid.1 (first bytes mid.1 mid.2 run) mid.2 value rest out
theorem yieldsThen {fine : β → Prop} (second : ∀ x, Yields (next x) fine) : Yields (read >>= next) fine :=
  yieldsBind (g := fun _ => True) (fun _ _ _ _ => trivial) fun x _ => second x
theorem yieldsPure {value : α} {good : α → Prop} (holds : good value) : Yields (pure value : Reader ε α) good := by
  intro bytes value rest out
  cases out
  exact holds
theorem yieldsThrow {exit : ε} {good : α → Prop} : Yields (throw exit : Reader ε α) good := by
  intro bytes value rest out
  cases out
theorem yieldsTake (count : Nat) (short : ε) : Yields (take count short) fun bytes => bytes.length = count := by
  intro bytes value rest out
  unfold take at out
  split at out
  · cases out
  · next enough =>
    cases out
    simp only [List.length_take]
    omega
theorem yieldsMany {good : α → Prop} (each : Yields read good) (count : Nat) :
    Yields (readMany read count) fun xs => ∀ x ∈ xs.1, good x := by
  induction count with
  | zero => exact yieldsPure fun x mem => nomatch mem
  | succ count ih =>
    refine yieldsBind each fun x holds => yieldsBind ih fun xs rest => yieldsPure ?_
    intro y mem
    rcases List.mem_cons.mp mem with rfl | mem
    · exact holds
    · exact rest y mem
end

/-! Little endian numbers, written and read one shift of 8 at a time. -/

def bytesOf (width value : Nat) : Bytes := (List.range width).map fun i => UInt8.ofNat (value >>> (8 * i))
def valueFrom (shift : Nat) : Bytes → Nat → Nat
  | [],value => value
  | byte::rest,value => valueFrom (shift + 8) rest (value ||| byte.toNat <<< shift)
def valueOf (bytes : Bytes) : Nat := valueFrom 0 bytes 0

@[simp] theorem bytesOfLength (width value : Nat) : (bytesOf width value).length = width := by
  simp [bytesOf]
theorem bytesOfSucc (width value : Nat) :
    bytesOf (width + 1) value = UInt8.ofNat value::bytesOf width (value / 256) := by
  simp only [bytesOf,List.range_succ_eq_map,List.map_cons,List.map_map]
  congr 1
  refine List.map_congr_left fun i _ => ?_
  simp only [Function.comp_apply,Nat.succ_eq_add_one,Nat.shiftRight_eq_div_pow,Nat.mul_add]
  rw [Nat.add_comm,Nat.pow_add,← Nat.div_div_eq_div_mul]
theorem valueFromBytesOf (width value shift acc : Nat) (low : acc < 2 ^ shift) :
    valueFrom shift (bytesOf width value) acc = acc + value % 256 ^ width * 2 ^ shift := by
  induction width generalizing value shift acc with
  | zero => simp [bytesOf,valueFrom,Nat.mod_one]
  | succ width ih =>
    have byte : (UInt8.ofNat value).toNat = value % 256 := by simp
    have digit : acc ||| (value % 256) <<< shift = acc + value % 256 * 2 ^ shift := by
      rw [Nat.or_comm,← Nat.shiftLeft_add_eq_or_of_lt low,Nat.shiftLeft_eq,Nat.add_comm]
    have carried : acc + value % 256 * 2 ^ shift < 2 ^ (shift + 8) := by
      have small : value % 256 + 1 ≤ 256 := Nat.mod_lt _ (by decide)
      calc acc + value % 256 * 2 ^ shift < 2 ^ shift + value % 256 * 2 ^ shift := Nat.add_lt_add_right low _
        _ = (value % 256 + 1) * 2 ^ shift := by rw [Nat.add_mul,Nat.one_mul,Nat.add_comm]
        _ ≤ 256 * 2 ^ shift := Nat.mul_le_mul_right _ small
        _ = 2 ^ (shift + 8) := by rw [Nat.pow_add,Nat.mul_comm]
    have split : value % 256 ^ (width + 1) = value % 256 + 256 * (value / 256 % 256 ^ width) := by
      rw [Nat.pow_succ',Nat.mod_mul]
    have shifted : 2 ^ (shift + 8) = 256 * 2 ^ shift := by rw [Nat.pow_add,Nat.mul_comm]
    rw [bytesOfSucc,valueFrom,byte,digit,ih _ _ _ carried,split,shifted,Nat.add_mul,Nat.add_assoc]
    congr 2
    rw [← Nat.mul_assoc,Nat.mul_comm 256]
theorem valueOfBytesOf {width value : Nat} (fits : value < 256 ^ width) :
    valueOf (bytesOf width value) = value := by
  rw [valueOf,valueFromBytesOf _ _ _ _ (by decide),Nat.mod_eq_of_lt fits]
  simp

end Polytope.ByteReader
