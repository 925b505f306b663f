import Courier.Json.Number

/-!
# Passing over values

The value of a member that nobody asks for is passed over, whatever it holds: it only has to be
JSON. The brackets that are open stand on a stack, so that values of any depth are passed over in
one run over the bytes.

* `skipValue`: passes over one value.
-/

namespace Courier.Json

/-- A bracket that is open: of an array or of an object. -/
inductive Bracket
  | array
  | object
  deriving DecidableEq

/-- The byte that closes a bracket. -/
def Bracket.closing : Bracket → UInt8
  | .array => 0x5D
  | .object => 0x7D

/-- The byte that opens a bracket. -/
def Bracket.ofByte? (b : UInt8) : Option Bracket :=
  if b = 0x5B then some .array else if b = 0x7B then some .object else none

/-- The first byte that is no white space, and what follows it. -/
def front? (s : Bytes) : Option (UInt8 × Bytes) :=
  match skipSpace s with
  | [] => none
  | b :: rest => some (b, rest)

theorem front?_length_lt {s r : Bytes} {b : UInt8} (h : front? s = some (b, r)) :
    r.length < s.length := by
  have hs := skipSpace_length_le s
  unfold front? at h
  split at h
  next => cases h
  next heq =>
    cases h
    rw [heq, List.length_cons] at hs
    omega

/-- Passes over a colon. -/
def skipColon (s : Bytes) : Except Fault Bytes :=
  match front? s with
  | none => .error .truncated
  | some (b, s) => if b = 0x3A then .ok s else .error .malformed

theorem skipColon_length_lt {s r : Bytes} (h : skipColon s = .ok r) : r.length < s.length := by
  unfold skipColon at h
  split at h
  next => cases h
  next hf =>
    split at h
    · cases h; exact front?_length_lt hf
    · cases h

/-- Passes over the name of a member and its colon. In an array there is none. -/
def skipName (bracket : Bracket) (s : Bytes) : Except Fault Bytes :=
  match bracket with
  | .array => .ok s
  | .object =>
    match front? s with
    | none => .error .truncated
    | some (b, s) => if b = 0x22 then skipString s >>= skipColon else .error .malformed

theorem skipName_length_le {bracket : Bracket} {s r : Bytes} (h : skipName bracket s = .ok r) :
    r.length ≤ s.length := by
  unfold skipName at h
  split at h
  next => cases h; exact Nat.le_refl _
  next =>
    split at h
    next => cases h
    next t hf =>
      have := front?_length_lt hf
      split at h
      · cases hq : skipString t with
        | error => simp [hq, bind, Except.bind] at h
        | ok u =>
          have := skipString_length_lt hq
          simp only [hq, bind, Except.bind] at h
          have := skipColon_length_lt h
          omega
      · cases h

/-- Passes over a value that is no array and no object, given its first byte. -/
def skipScalar (b : UInt8) (s : Bytes) : Except Fault Bytes :=
  if b = 0x6E then word [0x75, 0x6C, 0x6C] s
  else if b = 0x74 then word [0x72, 0x75, 0x65] s
  else if b = 0x66 then word [0x61, 0x6C, 0x73, 0x65] s
  else if b = 0x2D then skipNumber s
  else if b = 0x22 then skipString s
  else skipNumber (b :: s)

theorem skipScalar_length_le {b : UInt8} {s r : Bytes} (h : skipScalar b s = .ok r) :
    r.length ≤ s.length := by
  unfold skipScalar at h
  repeat' split at h
  · exact word_length_le h
  · exact word_length_le h
  · exact word_length_le h
  · exact Nat.le_of_lt (skipNumber_length_lt h)
  · exact Nat.le_of_lt (skipString_length_lt h)
  · exact Nat.le_of_lt_succ (skipNumber_length_lt h)

/-- Where a run over values stands: before a value, or after one. -/
inductive Place
  | before
  | after
  deriving DecidableEq

/-- Passes over what follows an opening bracket: its closing one, or the name of a first member. -/
def skipOpening (bracket : Bracket) (s : Bytes) : Except Fault (Place × Bytes) :=
  match front? s with
  | none => .error .truncated
  | some (b, rest) =>
    if b = bracket.closing then .ok (.after, rest)
    else (skipName bracket s).map fun s => (.before, s)

theorem skipOpening_length_le {bracket : Bracket} {s r : Bytes} {place : Place}
    (h : skipOpening bracket s = .ok (place, r)) : r.length ≤ s.length := by
  unfold skipOpening at h
  split at h
  next => cases h
  next hf =>
    split at h
    · cases h; exact Nat.le_of_lt (front?_length_lt hf)
    · cases hn : skipName bracket s with
      | error => simp [hn, Except.map] at h
      | ok t =>
        simp only [hn, Except.map, Except.ok.injEq, Prod.mk.injEq] at h
        exact h.2 ▸ skipName_length_le hn

/-- Passes over what remains of a value inside the open brackets. -/
def skip (place : Place) (stack : List Bracket) (s : Bytes) : Except Fault Bytes :=
  match place, stack with
  | .after, [] => .ok s
  | .after, bracket :: stack =>
    match _hf : front? s with
    | none => .error .truncated
    | some (b, rest) =>
      if b = bracket.closing then skip .after stack rest
      else if b = 0x2C then
        match _hn : skipName bracket rest with
        | .error fault => .error fault
        | .ok rest => skip .before (bracket :: stack) rest
      else .error .malformed
  | .before, stack =>
    match _hf : front? s with
    | none => .error .truncated
    | some (b, rest) =>
      match Bracket.ofByte? b with
      | some bracket =>
        match _ho : skipOpening bracket rest with
        | .error fault => .error fault
        | .ok (.after, rest) => skip .after stack rest
        | .ok (.before, rest) => skip .before (bracket :: stack) rest
      | none =>
        match _hs : skipScalar b rest with
        | .error fault => .error fault
        | .ok rest => skip .after stack rest
termination_by s.length
decreasing_by
  all_goals have hf := front?_length_lt _hf
  · exact hf
  · exact Nat.lt_of_le_of_lt (skipName_length_le _hn) hf
  · exact Nat.lt_of_le_of_lt (skipOpening_length_le _ho) hf
  · exact Nat.lt_of_le_of_lt (skipOpening_length_le _ho) hf
  · exact Nat.lt_of_le_of_lt (skipScalar_length_le _hs) hf

/-- Passes over one value. -/
def skipValue (s : Bytes) : Except Fault Bytes := skip .before [] s

end Courier.Json
