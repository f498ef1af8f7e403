/-!
# Tables over code points

Sets of code points and maps from code points, read from lines of numbers in
base sixteen and searched by halving.
-/

namespace Targeting.Unicode

/-! ## Numbers -/

/-- The value of a digit in base sixteen with small letters. -/
def hexDigit? (c : Char) : Option Nat :=
  if '0' ≤ c ∧ c ≤ '9' then some (c.toNat - 48)
  else if 'a' ≤ c ∧ c ≤ 'f' then some (c.toNat - 87)
  else none

def readHex (s : String) : Nat :=
  s.toList.foldl (fun n c => n * 16 + (hexDigit? c).getD 0) 0

/-- Halves the interval from `low` to `high` until it holds one index, the last
whose key is at most `n`, if the keys increase and that of `low` is. -/
def halve (key : Nat → Nat) (n low high : Nat) : Nat :=
  if low + 1 < high then
    let middle := (low + high) / 2
    if key middle ≤ n then halve key n middle high else halve key n low middle
  else low
termination_by high - low

/-- The last index below `size` whose key is at most `n`, or 0. -/
def lastAtOrBelow (key : Nat → Nat) (size n : Nat) : Nat := halve key n 0 size

/-! ## Sets -/

/-- A set of code points, as increasing ranges with both ends. -/
structure CodePointSet where
  ranges : Array (Nat × Nat)

namespace CodePointSet

/-- Pairs of a gap and a length. -/
def rangesOf (start : Nat) : List Nat → List (Nat × Nat)
  | gap :: length :: rest =>
    (start + gap, start + gap + length - 1) :: rangesOf (start + gap + length) rest
  | _ => []

/-- The set written as the gap before each range and the length of the range. -/
def decode (lines : List String) : CodePointSet :=
  ⟨(rangesOf 0 (lines.flatMap fun line => (line.splitOn " ").map readHex)).toArray⟩

def contains (s : CodePointSet) (c : Char) : Bool :=
  let i := lastAtOrBelow (fun i => (s.ranges[i]?.map (·.1)).getD 0) s.ranges.size c.toNat
  match s.ranges[i]? with
  | some (first, last) => first ≤ c.toNat && c.toNat ≤ last
  | none => false

end CodePointSet

/-! ## Maps -/

/-- A map from code points, as increasing starts of runs with one value. -/
structure CodePointMap (α : Type) where
  runs : Array (Nat × α)
  default : α

namespace CodePointMap

variable {α : Type}

/-- Reads runs from `start` on. Each is written as its length and then a name
of `width` letters that begins with a capital; `length` is what has been read of
the length, and `skip` how many letters of a name are still to be passed. -/
def readRuns (width : Nat) (value : String → α) (start length : Nat) :
    List Char → Nat → List (Nat × α)
  | [], _ => []
  | _ :: rest, skip + 1 => readRuns width value start length rest skip
  | c :: rest, 0 =>
    match hexDigit? c with
    | some d => readRuns width value start (length * 16 + d) rest 0
    | none =>
      (start, value (String.ofList ((c :: rest).take width))) ::
        readRuns width value (start + length) 0 rest (width - 1)

/-- The map whose runs are written with names of `width` letters. -/
def decode (width : Nat) (value : String → α) (default : α) (lines : List String) :
    CodePointMap α :=
  ⟨(readRuns width value 0 0 (lines.flatMap String.toList) 0).toArray, default⟩

def get (m : CodePointMap α) (c : Char) : α :=
  let i := lastAtOrBelow (fun i => (m.runs[i]?.map (·.1)).getD 0) m.runs.size c.toNat
  match m.runs[i]? with
  | some (_, value) => value
  | none => m.default

end CodePointMap

end Targeting.Unicode
