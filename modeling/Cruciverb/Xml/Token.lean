namespace Cruciverb.Xml

inductive Token where
  -- between two pieces of markup, or at the ends of the text
  | text (cs : List Char)
  -- all but the angle brackets
  | open (content : List Char)
  -- all behind the slash
  | close (content : List Char)
  | cdata (cs : List Char)
  -- a comment, a document type, a declaration or an instruction
  | aside
  deriving DecidableEq, Repr

-- The content of a tag, up to the first `>` outside of quotes, and what follows it.
def untilTagEnd? (quote : Option Char) : List Char → Option (List Char × List Char)
  | [] => none
  | c :: cs =>
    match quote with
    | some q => (untilTagEnd? (if c = q then none else quote) cs).map fun (t, r) => (c :: t, r)
    | none =>
      if c = '>' then some ([], cs)
      else
        let quote := if c = '"' || c = '\'' then some c else none
        (untilTagEnd? quote cs).map fun (t, r) => (c :: t, r)

-- What comes before the first `>` that `ends` accepts, and what follows it. The characters before
-- are shown to `ends` with the nearest first.
def untilAngle? (ends : List Char → Bool) (before : List Char) :
    List Char → Option (List Char × List Char)
  | [] => none
  | c :: cs =>
    if c == '>' && ends before then some (before.reverse, cs)
    else untilAngle? ends (c :: before) cs

-- The shortest comment has its four hyphens behind the exclamation mark.
def endsComment (before : List Char) : Bool :=
  ['-', '-'].isPrefixOf before && 4 < before.length

def endsCdata (before : List Char) : Bool := [']', ']'].isPrefixOf before

-- Angle brackets inside a document type come in pairs.
def endsDoctype (before : List Char) : Bool := before.count '<' == before.count '>'

def endsInstruction (before : List Char) : Bool := before.head? == some '?'

def isSpace (c : Char) : Bool := c == ' ' || c == '\t' || c == '\r' || c == '\n'

def cdataStart : List Char := "![CDATA[".toList

def doctypeStart : List Char := "!doctype".toList

def comment? (content : List Char) : Option Token :=
  if "!--".toList.isPrefixOf content then some .aside else none

-- All between the opening bracket and the two closing ones.
def cdata? (content : List Char) : Option Token :=
  if cdataStart.isPrefixOf content then
    some (.cdata ((content.drop cdataStart.length).dropLast.dropLast))
  else none

-- A document type has a name.
def doctype? (content : List Char) : Option Token :=
  if doctypeStart.isPrefixOf (content.map Char.toLower) &&
      (content.drop doctypeStart.length).any (!isSpace ·) then
    some .aside
  else none

-- The question marks at the two ends are different ones.
def instruction? (content : List Char) : Option Token :=
  if 1 < content.length then some .aside else none

def follow? (rest : Option (List Char × List Char)) (token? : List Char → Option Token) :
    Option (Token × List Char) :=
  match rest with
  | none => none
  | some (content, rest) => (token? content).map (·, rest)

-- The markup behind an opening angle bracket, and what follows it.
def markup? (cs : List Char) : Option (Token × List Char) :=
  match cs with
  | [] => none
  | '/' :: inner => follow? (untilTagEnd? none inner) fun content => some (.close content)
  | '?' :: _ => follow? (untilAngle? endsInstruction [] cs) instruction?
  | '!' :: '-' :: _ => follow? (untilAngle? endsComment [] cs) comment?
  | '!' :: '[' :: _ => follow? (untilAngle? endsCdata [] cs) cdata?
  | '!' :: 'D' :: _ => follow? (untilAngle? endsDoctype [] cs) doctype?
  | '!' :: 'd' :: _ => follow? (untilAngle? endsDoctype [] cs) doctype?
  | '!' :: _ => none
  | _ => follow? (untilTagEnd? none cs) fun content => some (.open content)

theorem length_untilTagEnd? {quote : Option Char} {cs content rest : List Char}
    (h : untilTagEnd? quote cs = some (content, rest)) : rest.length < cs.length := by
  induction cs generalizing quote content with
  | nil => cases h
  | cons c cs ih =>
    unfold untilTagEnd? at h
    split at h
    · obtain ⟨⟨_, _⟩, hs, heq⟩ := Option.map_eq_some_iff.mp h
      cases heq
      exact Nat.lt_succ_of_lt (ih hs)
    · split at h
      · cases h
        simp
      · obtain ⟨⟨_, _⟩, hs, heq⟩ := Option.map_eq_some_iff.mp h
        cases heq
        exact Nat.lt_succ_of_lt (ih hs)

theorem length_untilAngle? {ends : List Char → Bool} {before cs content rest : List Char}
    (h : untilAngle? ends before cs = some (content, rest)) : rest.length < cs.length := by
  induction cs generalizing before with
  | nil => cases h
  | cons c cs ih =>
    unfold untilAngle? at h
    split at h
    · cases h
      simp
    · exact Nat.lt_succ_of_lt (ih h)

theorem follow?_eq_some {found : Option (List Char × List Char)}
    {token? : List Char → Option Token} {t : Token} {rest : List Char}
    (h : follow? found token? = some (t, rest)) : ∃ content, found = some (content, rest) := by
  unfold follow? at h
  split at h
  · cases h
  · obtain ⟨_, _, heq⟩ := Option.map_eq_some_iff.mp h
    cases heq
    exact ⟨_, rfl⟩

theorem length_markup? {cs rest : List Char} {t : Token} (h : markup? cs = some (t, rest)) :
    rest.length < cs.length := by
  unfold markup? at h
  split at h
  · cases h
  · obtain ⟨_, hf⟩ := follow?_eq_some h
    exact Nat.lt_succ_of_lt (length_untilTagEnd? hf)
  iterate 5
    · obtain ⟨_, hf⟩ := follow?_eq_some h
      exact length_untilAngle? hf
  · cases h
  · obtain ⟨_, hf⟩ := follow?_eq_some h
    exact length_untilTagEnd? hf

-- No token for an empty text.
def textToken (cs : List Char) : List Token := if cs.isEmpty then [] else [.text cs]

-- The tokens of a whole text, unless some markup is not closed.
def tokens? (cs : List Char) : Option (List Token) :=
  let text := textToken (cs.takeWhile (· ≠ '<'))
  match _cut : cs.dropWhile (· ≠ '<') with
  | [] => some text
  | _ :: inner =>
    match _markup : markup? inner with
    | none => none
    | some (t, rest) => (tokens? rest).map fun ts => text ++ t :: ts
  termination_by cs.length
  decreasing_by
    have h1 := length_markup? _markup
    have h2 := (List.dropWhile_sublist (p := (· ≠ '<')) (l := cs)).length_le
    rw [_cut, List.length_cons] at h2
    omega

end Cruciverb.Xml
