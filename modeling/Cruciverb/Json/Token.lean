import Cruciverb.Json.Numeral

namespace Cruciverb.Json

open Cruciverb.Text

inductive Token where
  | openArray
  | closeArray
  | openObject
  | closeObject
  | comma
  | colon
  | string (s : String)
  | scalar (v : Json)

-- A tab or line end, or a space.
def isGap (c : Char) : Bool := c == ' ' || c == '\n' || c == '\r' || c == '\t'

def hexValue? (c : Char) : Option Nat :=
  if c.isDigit then some (c.toNat - 48)
  else if 'a' ≤ c && c ≤ 'f' then some (c.toNat - 87)
  else if 'A' ≤ c && c ≤ 'F' then some (c.toNat - 55)
  else none

-- The number that four hexadecimal digits make, and what follows them.
def readUnit? (cs : List Char) : Option (Nat × List Char) :=
  match cs with
  | a :: b :: c :: d :: rest =>
    match hexValue? a, hexValue? b, hexValue? c, hexValue? d with
    | some a, some b, some c, some d => some (((a * 16 + b) * 16 + c) * 16 + d, rest)
    | _, _, _, _ => none
  | _ => none

def isHighUnit (n : Nat) : Bool := 0xD800 ≤ n && n < 0xDC00

def isLowUnit (n : Nat) : Bool := 0xDC00 ≤ n && n < 0xE000

-- The character behind `\u`: one unit, or a high one that a low one follows.
def readEscapedUnit? (cs : List Char) : Option (Char × List Char) :=
  match readUnit? cs with
  | none => none
  | some (n, rest) =>
    if isLowUnit n then none
    else if isHighUnit n then
      match rest with
      | '\\' :: 'u' :: rest =>
        match readUnit? rest with
        | none => none
        | some (low, rest) =>
          if isLowUnit low then
            some (Char.ofNat (0x10000 + (n - 0xD800) * 0x400 + (low - 0xDC00)), rest)
          else none
      | _ => none
    else some (Char.ofNat n, rest)

def shortEscape? (c : Char) : Option Char :=
  if c = '"' || c = '\\' || c = '/' then some c
  else if c = 'b' then some '\x08'
  else if c = 'f' then some '\x0c'
  else if c = 'n' then some '\n'
  else if c = 'r' then some '\r'
  else if c = 't' then some '\t'
  else none

-- The next character of a string, and what follows it; none is left where the string is closed.
def readChar? (cs : List Char) : Option (Option Char × List Char) :=
  match cs with
  | [] => none
  | '"' :: rest => some (none, rest)
  | '\\' :: 'u' :: rest => (readEscapedUnit? rest).map fun (c, rest) => (some c, rest)
  | '\\' :: c :: rest => (shortEscape? c).map fun c => (some c, rest)
  | c :: rest => if c.toNat < 32 || c = '\\' then none else some (some c, rest)

theorem length_readUnit? {cs rest : List Char} {n : Nat} (h : readUnit? cs = some (n, rest)) :
    rest.length < cs.length := by
  unfold readUnit? at h
  split at h
  · split at h
    · cases h
      simp only [List.length_cons]
      omega
    · cases h
  · cases h

theorem length_readEscapedUnit? {cs rest : List Char} {c : Char}
    (h : readEscapedUnit? cs = some (c, rest)) : rest.length < cs.length := by
  unfold readEscapedUnit? at h
  split at h
  · cases h
  · next hn =>
    have h1 := length_readUnit? hn
    split at h
    · cases h
    · split at h
      · split at h
        · split at h
          · cases h
          · next hl =>
            have h2 := length_readUnit? hl
            simp only [List.length_cons] at h1
            split at h
            · simp only [Option.some.injEq, Prod.mk.injEq] at h
              rw [← h.2]
              omega
            · cases h
        · cases h
      · simp only [Option.some.injEq, Prod.mk.injEq] at h
        rw [← h.2]
        exact h1

theorem length_readChar? {cs rest : List Char} {c : Option Char}
    (h : readChar? cs = some (c, rest)) : rest.length < cs.length := by
  unfold readChar? at h
  split at h
  · cases h
  · cases h
    simp
  · obtain ⟨⟨_, _⟩, hu, heq⟩ := Option.map_eq_some_iff.mp h
    cases heq
    have := length_readEscapedUnit? hu
    simp only [List.length_cons]
    omega
  · obtain ⟨_, _, heq⟩ := Option.map_eq_some_iff.mp h
    cases heq
    simp only [List.length_cons]
    omega
  · split at h
    · cases h
    · cases h
      simp

-- The characters up to the closing quote, and what follows it.
def readString? (cs : List Char) : Option (List Char × List Char) :=
  match _read : readChar? cs with
  | none => none
  | some (none, rest) => some ([], rest)
  | some (some c, rest) => (readString? rest).map fun (s, rest) => (c :: s, rest)
  termination_by cs.length
  decreasing_by exact length_readChar? _read

theorem length_readString? {cs rest s : List Char} (h : readString? cs = some (s, rest)) :
    rest.length < cs.length := by
  fun_induction readString? cs generalizing s rest with
  | case1 => cases h
  | case2 _ _ hc =>
    cases h
    exact length_readChar? hc
  | case3 _ _ _ hc ih =>
    obtain ⟨⟨_, _⟩, hs, heq⟩ := Option.map_eq_some_iff.mp h
    cases heq
    exact Nat.lt_trans (ih hs) (length_readChar? hc)

def literals : List (List Char × Json) :=
  [("null".toList, .null), ("true".toList, .bool true), ("false".toList, .bool false)]

def readLiteral? (cs : List Char) : Option (Json × List Char) :=
  literals.findSome? fun (word, v) =>
    if word.isPrefixOf cs then some (v, cs.drop word.length) else none

-- The token at the front of a text that begins with none of the gaps.
def readToken? (cs : List Char) : Option (Token × List Char) :=
  match cs with
  | [] => none
  | '[' :: rest => some (.openArray, rest)
  | ']' :: rest => some (.closeArray, rest)
  | '\x7b' :: rest => some (.openObject, rest)
  | '\x7d' :: rest => some (.closeObject, rest)
  | ',' :: rest => some (.comma, rest)
  | ':' :: rest => some (.colon, rest)
  | '"' :: rest => (readString? rest).map fun (s, rest) => (.string (String.ofList s), rest)
  | c :: _ =>
    if c == '-' || c.isDigit then
      (readNumber? cs).map fun (n, rest) => (.scalar (.number n), rest)
    else (readLiteral? cs).map fun (v, rest) => (.scalar v, rest)

theorem length_readLiteral? {cs rest : List Char} {v : Json}
    (h : readLiteral? cs = some (v, rest)) : rest.length < cs.length := by
  unfold readLiteral? at h
  obtain ⟨⟨word, w⟩, hmem, hw⟩ := List.exists_of_findSome?_eq_some h
  have hpos : 0 < word.length := by
    simp only [literals, List.mem_cons, Prod.mk.injEq, List.not_mem_nil, or_false] at hmem
    rcases hmem with ⟨rfl, _⟩ | ⟨rfl, _⟩ | ⟨rfl, _⟩ <;> decide
  simp only at hw
  split at hw
  · next hpre =>
    cases hw
    have hle := (List.isPrefixOf_iff_prefix.mp hpre).length_le
    rw [List.length_drop]
    omega
  · cases hw

theorem length_readToken? {cs rest : List Char} {t : Token}
    (h : readToken? cs = some (t, rest)) : rest.length < cs.length := by
  unfold readToken? at h
  split at h
  · cases h
  iterate 6
    · cases h
      simp
  · obtain ⟨⟨_, _⟩, hs, heq⟩ := Option.map_eq_some_iff.mp h
    cases heq
    exact Nat.lt_succ_of_lt (length_readString? hs)
  · split at h
    · obtain ⟨⟨_, _⟩, hs, heq⟩ := Option.map_eq_some_iff.mp h
      cases heq
      exact length_readNumber? hs
    · obtain ⟨⟨_, _⟩, hs, heq⟩ := Option.map_eq_some_iff.mp h
      cases heq
      exact length_readLiteral? hs

-- The tokens of a whole text.
def tokens? (cs : List Char) : Option (List Token) :=
  match _cut : cs.dropWhile isGap with
  | [] => some []
  | c :: inner =>
    match _read : readToken? (c :: inner) with
    | none => none
    | some (t, rest) => (tokens? rest).map (t :: ·)
  termination_by cs.length
  decreasing_by
    have h1 := length_readToken? _read
    have h2 := (List.dropWhile_sublist (p := isGap) (l := cs)).length_le
    rw [_cut] at h2
    omega

end Cruciverb.Json
