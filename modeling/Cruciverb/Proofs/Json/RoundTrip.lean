import Cruciverb.Json.Reader
import Cruciverb.Proofs.Json.Tokens

namespace Cruciverb.Json

open Cruciverb.Text

-- At most so many arrays and objects inside one another, and no number that is not a word.
inductive Fits : Nat → Json → Prop where
  | string {levels : Nat} (s : String) : Fits levels (.string s)
  | number {levels n : Nat} (h : n < wordLimit) : Fits levels (.number (.natural n))
  | array {levels : Nat} {items : List Json} (h : ∀ v ∈ items, Fits levels v) :
    Fits (levels + 1) (.array items)
  | object {levels : Nat} {members : List (String × Json)} (h : ∀ m ∈ members, Fits levels m.2) :
    Fits (levels + 1) (.object members)

mutual

-- The value as it is read back.
def arranged : Json → Json
  | .array items => .array (arrangedItems items)
  | .object members => .object (arrangedMembers members [])
  | v => v

def arrangedItems : List Json → List Json
  | [] => []
  | v :: rest => arranged v :: arrangedItems rest

def arrangedMembers : List (String × Json) → (done : List (String × Json)) → List (String × Json)
  | [], done => done
  | (key, v) :: rest, done => arrangedMembers rest (putMember key (arranged v) done)

end

mutual

-- The tokens that are written for a value.
def tokensOf : Json → List Token
  | .string s => [.string s]
  | .array items => .openArray :: tokensOfItems items ++ [.closeArray]
  | .object members => .openObject :: tokensOfMembers members ++ [.closeObject]
  | v => [.scalar v]

def tokensOfItems : List Json → List Token
  | [] => []
  | [v] => tokensOf v
  | v :: rest => tokensOf v ++ .comma :: tokensOfItems rest

def tokensOfMembers : List (String × Json) → List Token
  | [] => []
  | [(key, v)] => .string key :: .colon :: tokensOf v
  | (key, v) :: rest => .string key :: .colon :: tokensOf v ++ .comma :: tokensOfMembers rest

end

theorem arrangedItems_eq (items : List Json) : arrangedItems items = items.map arranged := by
  induction items with
  | nil => rfl
  | cons v items ih => rw [arrangedItems, ih, List.map_cons]

theorem text_string (s : String) : text (.string s) = quoted s := rfl

theorem text_natural (n : Nat) : text (.number (.natural n)) = Nat.toDigits 10 n := rfl

theorem text_array (items : List Json) : text (.array items) = '[' :: itemsText items ++ [']'] := rfl

theorem text_object (members : List (String × Json)) :
    text (.object members) = '\x7b' :: membersText members ++ ['\x7d'] := rfl

theorem itemsText_singleton (v : Json) : itemsText [v] = text v := rfl

theorem itemsText_cons_cons (v w : Json) (items : List Json) :
    itemsText (v :: w :: items) = text v ++ ',' :: itemsText (w :: items) := rfl

theorem membersText_singleton (key : String) (v : Json) :
    membersText [(key, v)] = quoted key ++ ':' :: text v := rfl

theorem membersText_cons_cons (key : String) (v : Json) (m : String × Json)
    (members : List (String × Json)) :
    membersText ((key, v) :: m :: members) =
      quoted key ++ ':' :: text v ++ ',' :: membersText (m :: members) := rfl

-- The text of a token goes first, and the rest of the text is cut on its own.
theorem tokens?_of_readToken? {c : Char} {cs rest : List Char} {t : Token} (hgap : isGap c = false)
    (h : readToken? (c :: cs) = some (t, rest)) :
    tokens? (c :: cs) = (tokens? rest).map (t :: ·) := by
  have hfront : (c :: cs).dropWhile isGap = c :: cs := by
    rw [List.dropWhile_cons, hgap]
    rfl
  rw [tokens?]
  split
  · next hnil =>
    rw [hfront] at hnil
    cases hnil
  · next hcut =>
    rw [hfront] at hcut
    cases hcut
    split
    · next hnone =>
      rw [h] at hnone
      cases hnone
    · next hread =>
      rw [h] at hread
      cases hread
      rfl

theorem tokens?_mark {c : Char} {t : Token}
    (h : (c, t) ∈ [('[', Token.openArray), (']', .closeArray), ('\x7b', .openObject),
      ('\x7d', .closeObject), (',', .comma), (':', .colon)]) (rest : List Char) :
    tokens? (c :: rest) = (tokens? rest).map (t :: ·) := by
  simp only [List.mem_cons, Prod.mk.injEq, List.not_mem_nil, or_false] at h
  rcases h with ⟨rfl, rfl⟩ | ⟨rfl, rfl⟩ | ⟨rfl, rfl⟩ | ⟨rfl, rfl⟩ | ⟨rfl, rfl⟩ | ⟨rfl, rfl⟩
  all_goals exact tokens?_of_readToken? (by decide) rfl

theorem tokens?_quoted (s : String) (rest : List Char) :
    tokens? (quoted s ++ rest) = (tokens? rest).map (.string s :: ·) := by
  have hread : readToken? (quoted s ++ rest) = some (.string s, rest) := by
    have hstring := readString?_escape s.toList rest
    rw [quoted, List.cons_append, List.cons_append, List.append_assoc, List.singleton_append]
    show (readString? (s.toList.flatMap escape ++ '"' :: rest)).map _ = _
    rw [hstring, Option.map_some]
    dsimp only
    rw [String.ofList_toList]
  exact tokens?_of_readToken? (by decide) hread

theorem tokens?_toDigits {n : Nat} (h : n < wordLimit) {rest : List Char} (hrest : Stops rest) :
    tokens? (Nat.toDigits 10 n ++ rest) = (tokens? rest).map (.scalar (.nat n) :: ·) := by
  have hread := readNumber?_toDigits h hrest
  cases hfront : Nat.toDigits 10 n with
  | nil => exact absurd hfront Nat.toDigits_ne_nil
  | cons c ds =>
    have hc : c.isDigit = true := isDigit_of_mem_toDigits (hfront ▸ List.mem_cons_self)
    rw [hfront] at hread
    have htoken : readToken? (c :: (ds ++ rest)) = some (.scalar (.nat n), rest) := by
      unfold readToken?
      split <;> rename_i heq <;> cases heq
      iterate 7
        · exact absurd hc (by decide)
      rw [hc, Bool.or_true, if_pos rfl, ← List.cons_append, hread]
      rfl
    have hgap : isGap c = false := by
      simp only [isGap, Bool.or_eq_false_iff, beq_eq_false_iff_ne, ne_eq]
      refine ⟨⟨⟨?_, ?_⟩, ?_⟩, ?_⟩ <;> rintro rfl <;> exact absurd hc (by decide)
    exact tokens?_of_readToken? hgap htoken

-- The tokens of the value come first, and those of the rest follow.
def Cuts (v : Json) : Prop := ∀ rest, Stops rest →
  tokens? (text v ++ rest) = (tokens? rest).map (tokensOf v ++ ·)

theorem cuts_string (s : String) : Cuts (.string s) := fun rest _ => by
  rw [text_string, tokens?_quoted]
  rfl

theorem cuts_nat {n : Nat} (h : n < wordLimit) : Cuts (.number (.natural n)) := fun rest hrest => by
  rw [text_natural, tokens?_toDigits h hrest]
  rfl

theorem tokens?_itemsText {items : List Json} (h : ∀ v ∈ items, Cuts v) (rest : List Char) :
    tokens? (itemsText items ++ ']' :: rest) =
      (tokens? rest).map (tokensOfItems items ++ .closeArray :: ·) := by
  induction items with
  | nil => exact tokens?_mark (by simp) rest
  | cons v items ih =>
    have hv := h v List.mem_cons_self
    have ih := ih fun w hw => h w (List.mem_cons_of_mem _ hw)
    cases items with
    | nil =>
      rw [itemsText_singleton, tokensOfItems, hv _ (stops_cons (by simp)),
        @tokens?_mark ']' .closeArray (by simp), Option.map_map]
      rfl
    | cons next items =>
      rw [itemsText_cons_cons, tokensOfItems, List.append_assoc, List.cons_append,
        hv _ (stops_cons (by simp)), @tokens?_mark ',' .comma (by simp), ih]
      · simp only [Option.map_map, Function.comp_def, List.append_assoc, List.cons_append]
      · simp

theorem tokens?_membersText {members : List (String × Json)} (h : ∀ m ∈ members, Cuts m.2)
    (rest : List Char) :
    tokens? (membersText members ++ '\x7d' :: rest) =
      (tokens? rest).map (tokensOfMembers members ++ .closeObject :: ·) := by
  induction members with
  | nil => exact tokens?_mark (by simp) rest
  | cons m members ih =>
    obtain ⟨key, v⟩ := m
    have hv : Cuts v := h (key, v) List.mem_cons_self
    have ih := ih fun w hw => h w (List.mem_cons_of_mem _ hw)
    cases members with
    | nil =>
      rw [membersText_singleton, tokensOfMembers, List.append_assoc, tokens?_quoted,
        List.cons_append, @tokens?_mark ':' .colon (by simp), hv _ (stops_cons (by simp)),
        @tokens?_mark '\x7d' .closeObject (by simp)]
      simp only [Option.map_map, Function.comp_def, List.cons_append]
    | cons next members =>
      rw [membersText_cons_cons, tokensOfMembers, List.append_assoc, List.append_assoc,
        tokens?_quoted, List.cons_append, @tokens?_mark ':' .colon (by simp), List.cons_append,
        hv _ (stops_cons (by simp)), @tokens?_mark ',' .comma (by simp), ih]
      · simp only [Option.map_map, Function.comp_def, List.append_assoc, List.cons_append]
      · simp

theorem cuts_array {items : List Json} (h : ∀ v ∈ items, Cuts v) : Cuts (.array items) := by
  intro rest _
  rw [text_array, List.cons_append, List.cons_append, List.append_assoc, List.singleton_append,
    @tokens?_mark '[' .openArray (by simp), tokens?_itemsText h, Option.map_map]
  simp only [tokensOf, Function.comp_def, List.append_assoc, List.cons_append, List.nil_append]

theorem cuts_object {members : List (String × Json)} (h : ∀ m ∈ members, Cuts m.2) :
    Cuts (.object members) := by
  intro rest _
  rw [text_object, List.cons_append, List.cons_append, List.append_assoc, List.singleton_append,
    @tokens?_mark '\x7b' .openObject (by simp), tokens?_membersText h, Option.map_map]
  simp only [tokensOf, Function.comp_def, List.append_assoc, List.cons_append, List.nil_append]

theorem Fits.cuts {levels : Nat} {v : Json} (h : Fits levels v) : Cuts v := by
  induction h with
  | string s => exact cuts_string s
  | number h => exact cuts_nat h
  | array h ih => exact cuts_array ih
  | object h ih => exact cuts_object ih

-- The tokens of the value are put together to it, whatever is open around it.
def Builds (levels : Nat) (v : Json) : Prop := ∀ stack rest, stack.length + levels ≤ deepest →
  expectValue stack (tokensOf v ++ rest) = closeValue stack v.arranged rest

theorem tokensOf_ne_closeArray (v : Json) (rest more : List Token) :
    tokensOf v ++ rest ≠ .closeArray :: more := by
  cases v <;> simp [tokensOf]

-- Behind the comma of an array there is no key.
theorem tokensOfItems_ne_key (v : Json) (items : List Json) (rest more : List Token) (key : String) :
    tokensOfItems (v :: items) ++ .closeArray :: rest ≠ .string key :: .colon :: more := by
  cases v <;> cases items <;> simp [tokensOf, tokensOfItems]

theorem tokensOfItems_ne_closeArray (v : Json) (items : List Json) (rest more : List Token) :
    tokensOfItems (v :: items) ++ rest ≠ .closeArray :: more := by
  cases items with
  | nil => exact tokensOf_ne_closeArray v rest more
  | cons w items =>
    rw [tokensOfItems, List.append_assoc]
    · exact tokensOf_ne_closeArray v _ more
    · simp

theorem expectValue_items {levels : Nat} {stack : List Frame} (hlevel : stack.length + 1 + levels ≤ deepest)
    {v : Json} {items : List Json} (h : ∀ w ∈ v :: items, Builds levels w) (done : List Json)
    (rest : List Token) :
    expectValue (.items done :: stack) (tokensOfItems (v :: items) ++ .closeArray :: rest) =
      closeValue stack (.array (done.reverse ++ arrangedItems (v :: items))) rest := by
  induction items generalizing v done with
  | nil =>
    have hv := h v List.mem_cons_self (.items done :: stack) (.closeArray :: rest) hlevel
    rw [tokensOfItems, hv, closeValue, List.reverse_cons]
    rfl
  | cons w items ih =>
    have hv := h v List.mem_cons_self (.items done :: stack)
      (.comma :: (tokensOfItems (w :: items) ++ .closeArray :: rest)) hlevel
    have ih := @ih w (fun u hu => h u (List.mem_cons_of_mem _ hu)) (v.arranged :: done)
    rw [tokensOfItems, List.append_assoc, List.cons_append, hv, closeValue, ih, List.reverse_cons,
      List.append_assoc]
    · rfl
    · exact fun key more heq => tokensOfItems_ne_key w items rest more key heq
    · simp

theorem expectValue_members {levels : Nat} {stack : List Frame}
    (hlevel : stack.length + 1 + levels ≤ deepest) {key : String} {v : Json}
    {members : List (String × Json)} (h : ∀ m ∈ (key, v) :: members, Builds levels m.2) :
    ∃ ts, tokensOfMembers ((key, v) :: members) = .string key :: .colon :: ts ∧
      ∀ done rest, expectValue (.members done key :: stack) (ts ++ .closeObject :: rest) =
        closeValue stack (.object (arrangedMembers ((key, v) :: members) done)) rest := by
  induction members generalizing key v with
  | nil =>
    refine ⟨tokensOf v, by rw [tokensOfMembers], fun done rest => ?_⟩
    rw [h (key, v) List.mem_cons_self (.members done key :: stack) _ hlevel, closeValue]
    rfl
  | cons m members ih =>
    obtain ⟨next, w⟩ := m
    obtain ⟨ts, hts, hrest⟩ := @ih next w fun u hu => h u (List.mem_cons_of_mem _ hu)
    refine ⟨tokensOf v ++ .comma :: .string next :: .colon :: ts, ?_, fun done rest => ?_⟩
    · rw [tokensOfMembers, hts]
      · rfl
      · simp
    · rw [List.append_assoc, h (key, v) List.mem_cons_self (.members done key :: stack) _ hlevel,
        List.cons_append, List.cons_append, List.cons_append, closeValue, hrest]
      rfl

theorem builds_array {levels : Nat} {items : List Json} (h : ∀ v ∈ items, Builds levels v) :
    Builds (levels + 1) (.array items) := by
  intro stack rest hlevel
  have hlt : stack.length < deepest := by omega
  cases items with
  | nil =>
    show expectValue stack (.openArray :: .closeArray :: rest) = _
    rw [expectValue, if_pos hlt]
    rfl
  | cons v items =>
    rw [tokensOf, List.cons_append, List.cons_append, List.append_assoc, List.singleton_append,
      expectValue, if_pos hlt, expectValue_items (by omega) h]
    · rfl
    · exact fun more heq => tokensOfItems_ne_closeArray v items _ more heq

theorem builds_object {levels : Nat} {members : List (String × Json)}
    (h : ∀ m ∈ members, Builds levels m.2) : Builds (levels + 1) (.object members) := by
  intro stack rest hlevel
  have hlt : stack.length < deepest := by omega
  cases members with
  | nil =>
    show expectValue stack (.openObject :: .closeObject :: rest) = _
    rw [expectValue, if_pos hlt]
    rfl
  | cons m members =>
    obtain ⟨key, v⟩ := m
    obtain ⟨ts, hts, hvalue⟩ := @expectValue_members levels stack (by omega) _ _ _ h
    have htokens : tokensOf (.object ((key, v) :: members)) ++ rest =
        .openObject :: .string key :: .colon :: (ts ++ .closeObject :: rest) := by
      simp [tokensOf, hts]
    rw [htokens, expectValue, if_pos hlt, hvalue]
    rfl

theorem Fits.builds {levels : Nat} {v : Json} (h : Fits levels v) : Builds levels v := by
  induction h with
  | string s =>
    intro stack rest _
    rw [tokensOf, List.singleton_append, expectValue]
    rfl
  | number h =>
    intro stack rest _
    show expectValue stack (.scalar _ :: rest) = _
    rw [expectValue]
    rfl
  | array h ih => exact builds_array ih
  | object h ih => exact builds_object ih

-- What is written is read back.
theorem Fits.read?_compact {levels : Nat} {v : Json} (h : Fits levels v) (hlevels : levels ≤ deepest) :
    read? v.compact = some v.arranged := by
  have htokens : tokens? v.text = some (tokensOf v) := by
    have hcuts := h.cuts [] stops_nil
    have hnil : tokens? [] = some [] := by rw [tokens?]; rfl
    rw [List.append_nil, hnil, Option.map_some, List.append_nil] at hcuts
    exact hcuts
  have hbuilds := h.builds [] [] (by simpa using hlevels)
  rw [List.append_nil, closeValue] at hbuilds
  rw [read?, compact, String.toList_ofList, htokens]
  exact hbuilds

section Members

theorem member?_putMember (key : String) (v : Json) (done : List (String × Json)) (k : String) :
    (object (putMember key v done)).member? k = if key = k then some v else (object done).member? k := by
  induction done with
  | nil => by_cases hk : key = k <;> simp [putMember, member?, hk]
  | cons m done ih =>
    obtain ⟨j, w⟩ := m
    simp only [member?] at ih
    simp only [putMember, member?]
    split
    · by_cases hk : key = k <;> simp [hk]
    · split
      · next heq =>
        subst heq
        by_cases hk : key = k <;> simp [hk]
      · next hne =>
        by_cases hj : j = k
        · have hk : key ≠ k := fun hk => hne (hk.trans hj.symm)
          simp [hj, hk]
        · have hb : (j == k) = false := by simpa using hj
          simp only [List.find?_cons, hb]
          exact ih

theorem member?_arrangedMembers {members : List (String × Json)} (hnodup : (members.map (·.1)).Nodup)
    (done : List (String × Json)) (k : String) :
    (object (arrangedMembers members done)).member? k =
      (((object members).member? k).map arranged).or ((object done).member? k) := by
  induction members generalizing done with
  | nil => simp [arrangedMembers, member?]
  | cons m members ih =>
    obtain ⟨key, v⟩ := m
    rw [List.map_cons, List.nodup_cons] at hnodup
    rw [arrangedMembers, ih hnodup.2, member?_putMember]
    by_cases hk : key = k
    · have hnone : (object members).member? k = none := by
        rw [member?, Option.map_eq_none_iff, List.find?_eq_none]
        intro m hm heq
        rw [← hk, beq_iff_eq] at heq
        exact hnodup.1 (List.mem_map.mpr ⟨m, hm, heq⟩)
      rw [hnone]
      simp [member?, hk]
    · simp [member?, hk]

-- Members are found under their keys as before.
theorem member?_arranged {members : List (String × Json)} (hnodup : (members.map (·.1)).Nodup)
    (k : String) : (object members).arranged.member? k = ((object members).member? k).map arranged := by
  rw [arranged, member?_arrangedMembers hnodup]
  simp [member?]

end Members

-- A text is written on one line.
theorem noNewline_escape (c : Char) : '\n' ∉ escape c := by
  have hhex (n : Nat) : '\n' ≠ hexDigit n := (Nat.digitChar_ne '\n' (by decide)).symm
  unfold escape
  repeat' split
  all_goals simp_all [eq_comm]

theorem noNewline_quoted (s : String) : '\n' ∉ quoted s := by
  simp only [quoted, List.mem_append, List.mem_cons, List.mem_flatMap, not_or, not_exists, not_and]
  exact ⟨⟨by decide, fun c _ => noNewline_escape c⟩, by decide, by simp⟩

theorem noNewline_itemsText {items : List Json} (h : ∀ v ∈ items, '\n' ∉ text v) :
    '\n' ∉ itemsText items := by
  induction items with
  | nil => exact List.not_mem_nil
  | cons v items ih =>
    have hv := h v List.mem_cons_self
    have ih := ih fun w hw => h w (List.mem_cons_of_mem _ hw)
    cases items with
    | nil => exact hv
    | cons w items => simp [itemsText_cons_cons, hv, ih]

theorem noNewline_membersText {members : List (String × Json)} (h : ∀ m ∈ members, '\n' ∉ text m.2) :
    '\n' ∉ membersText members := by
  induction members with
  | nil => exact List.not_mem_nil
  | cons m members ih =>
    obtain ⟨key, v⟩ := m
    have hv : '\n' ∉ text v := h (key, v) List.mem_cons_self
    have ih := ih fun w hw => h w (List.mem_cons_of_mem _ hw)
    have hkey := noNewline_quoted key
    cases members with
    | nil => simp [membersText_singleton, hkey, hv]
    | cons w members => simp [membersText_cons_cons, hkey, hv, ih]

theorem Fits.noNewline_text {levels : Nat} {v : Json} (h : Fits levels v) : '\n' ∉ text v := by
  induction h with
  | string s => exact noNewline_quoted s
  | number h =>
    intro hmem
    exact absurd (isDigit_of_mem_toDigits hmem) (by decide)
  | array h ih => simp [text_array, noNewline_itemsText ih]
  | object h ih => simp [text_object, noNewline_membersText ih]

end Cruciverb.Json
