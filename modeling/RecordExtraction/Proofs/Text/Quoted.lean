import Mathlib.Data.List.TakeWhile
import RecordExtraction.Text.Quoted

/-!
# Quoted texts can be read back

Every character of a quoted text is found again at the front of what was written for it, and a
quotation mark that stands for itself ends the text.  So a quoted text shows where it ends and what
it says, whatever is written behind it.
-/

namespace RecordExtraction

/-- Two texts with different continuations that begin with the same characters of one sort, and then
with another character, agree in both parts. -/
theorem append_inj_of_stop {α : Type} {p : α → Bool} {first second rest rest' : List α}
    (hfirst : ∀ a ∈ first, p a = true) (hsecond : ∀ a ∈ second, p a = true)
    (hrest : ∀ a ∈ rest.head?, p a = false) (hrest' : ∀ a ∈ rest'.head?, p a = false)
    (hsame : first ++ rest = second ++ rest') :
    first = second ∧ rest = rest' := by
  have hstop : ∀ {rest : List α}, (∀ a ∈ rest.head?, p a = false) → rest.takeWhile p = [] := by
    intro rest hrest
    cases rest with
    | nil => rfl
    | cons a rest => simp [hrest a rfl]
  have htake := congrArg (List.takeWhile p) hsame
  rw [List.takeWhile_append_of_pos hfirst, List.takeWhile_append_of_pos hsecond, hstop hrest,
    hstop hrest', List.append_nil, List.append_nil] at htake
  subst htake
  exact ⟨rfl, List.append_cancel_left hsame⟩

/-- The last occurrence of an element divides a list. -/
theorem append_cons_inj_of_not_mem {α : Type} [BEq α] [LawfulBEq α] {a : α}
    {first second rest rest' : List α} (hrest : a ∉ rest) (hrest' : a ∉ rest')
    (hsame : first ++ a :: rest = second ++ a :: rest') :
    first = second ∧ rest = rest' := by
  have hbefore : ∀ {rest : List α}, a ∉ rest → ∀ b ∈ rest.reverse, (b != a) = true := by
    intro rest hrest b hb
    rw [bne_iff_ne]
    rintro rfl
    exact hrest (List.mem_reverse.mp hb)
  have hreversed : rest.reverse ++ a :: first.reverse = rest'.reverse ++ a :: second.reverse := by
    simpa using congrArg List.reverse hsame
  obtain ⟨hrests, hfirsts⟩ := append_inj_of_stop (hbefore hrest) (hbefore hrest') (by simp)
    (by simp) hreversed
  exact ⟨by simpa using hfirsts, by simpa using hrests⟩

namespace Quoted

/-! ## Code points -/

/-- The value of a digit of the base sixteen. -/
def digitValue (c : Char) : Nat :=
  if c.isDigit then c.toNat - '0'.toNat else c.toNat - 'a'.toNat + 10

/-- The number that digits of the base sixteen denote. -/
def codeOf (digits : List Char) : Nat :=
  digits.foldl (fun value c => value * 16 + digitValue c) 0

theorem digit_cases {n : Nat} (hn : n < 16) :
    digitValue n.digitChar = n ∧ n.digitChar ≠ '\x7d' := by
  have hall : ∀ n < 16, digitValue n.digitChar = n ∧ n.digitChar ≠ '\x7d' := by decide
  exact hall n hn

theorem codeOf_toDigits (n : Nat) :
    codeOf (Nat.toDigits 16 n) = n ∧ '\x7d' ∉ Nat.toDigits 16 n := by
  induction n using Nat.strong_induction_on with
  | h n ih =>
      by_cases hn : n < 16
      · rw [Nat.toDigits_of_lt_base hn]
        obtain ⟨hvalue, hbrace⟩ := digit_cases hn
        exact ⟨by simp [codeOf, hvalue], by simp [hbrace.symm]⟩
      · obtain ⟨hcode, hbraces⟩ := ih (n / 16) (by omega)
        obtain ⟨hvalue, hbrace⟩ := digit_cases (Nat.mod_lt n (by decide))
        rw [Nat.toDigits_of_base_le (by decide) (by omega)]
        constructor
        · rw [codeOf, List.foldl_append, ← codeOf, hcode]
          simp only [List.foldl_cons, List.foldl_nil, hvalue]
          omega
        · simp [hbraces, Ne.symm hbrace]

/-! ## Characters -/

/-- Takes the written form of one character off the front of a text. -/
def unescape : List Char → Option (Char × List Char)
  | '\\' :: 'n' :: rest => some ('\n', rest)
  | '\\' :: 'r' :: rest => some ('\r', rest)
  | '\\' :: 't' :: rest => some ('\t', rest)
  | '\\' :: '0' :: rest => some (Char.ofNat 0, rest)
  | '\\' :: 'u' :: '\x7b' :: rest =>
      let digits := rest.takeWhile (· != '\x7d')
      some (Char.ofNat (codeOf digits), rest.drop (digits.length + 1))
  | '\\' :: c :: rest => some (c, rest)
  | c :: rest => some (c, rest)
  | [] => none

theorem unescape_code (c : Char) (rest : List Char) :
    unescape (['\\', 'u', '\x7b'] ++ Nat.toDigits 16 c.toNat ++ ['\x7d'] ++ rest) =
      some (c, rest) := by
  obtain ⟨hcode, hbrace⟩ := codeOf_toDigits c.toNat
  have hdigits : (Nat.toDigits 16 c.toNat ++ '\x7d' :: rest).takeWhile (· != '\x7d') =
      Nat.toDigits 16 c.toNat := by
    rw [List.takeWhile_append_of_pos]
    · simp
    · intro d hd
      simpa using ne_of_mem_of_not_mem hd hbrace
  simp [unescape, hdigits, hcode]

theorem unescape_escape (c : Char) (rest : List Char) :
    unescape (escape c ++ rest) = some (c, rest) := by
  by_cases hquote : c = '"'
  · subst hquote
    rfl
  by_cases hslash : c = '\\'
  · subst hslash
    rfl
  by_cases hline : c = '\n'
  · subst hline
    rfl
  by_cases hreturn : c = '\r'
  · subst hreturn
    rfl
  by_cases htab : c = '\t'
  · subst htab
    rfl
  by_cases hzero : c.toNat = 0
  · obtain rfl : c = Char.ofNat 0 := by rw [← hzero, Char.ofNat_toNat]
    rfl
  by_cases hgraphic : isGraphic c = true
  · have hescape : escape c = [c] := by
      simp [escape, hquote, hslash, hline, hreturn, htab, hzero, hgraphic]
    rw [hescape, List.singleton_append, unescape]
    all_goals simp [hslash]
  · have hescape : escape c = ['\\', 'u', '\x7b'] ++ Nat.toDigits 16 c.toNat ++ ['\x7d'] := by
      simp [escape, hquote, hslash, hline, hreturn, htab, hzero, hgraphic]
    rw [hescape, unescape_code]

theorem escape_append_inj {c d : Char} {rest rest' : List Char}
    (hsame : escape c ++ rest = escape d ++ rest') :
    c = d ∧ rest = rest' := by
  have hread := congrArg unescape hsame
  rw [unescape_escape, unescape_escape] at hread
  simpa using hread

theorem exists_escape (c : Char) : ∃ d rest, escape c = d :: rest ∧ d ≠ '"' := by
  unfold escape
  split_ifs with hquote
  all_goals
    first
    | exact ⟨'\\', _, rfl, by decide⟩
    | exact ⟨c, [], rfl, by simpa using hquote⟩

/-! ## Texts -/

theorem encode_append_inj {text other rest rest' : List Char}
    (hsame : encode text ++ rest = encode other ++ rest') :
    text = other ∧ rest = rest' := by
  induction text generalizing other with
  | nil =>
      cases other with
      | nil => simpa [encode] using hsame
      | cons d other =>
          obtain ⟨e, more, hescape, hne⟩ := exists_escape d
          simp [encode, hescape] at hsame
          exact absurd hsame.1.symm hne
  | cons c text ih =>
      cases other with
      | nil =>
          obtain ⟨e, more, hescape, hne⟩ := exists_escape c
          simp [encode, hescape] at hsame
          exact absurd hsame.1 hne
      | cons d other =>
          simp only [encode, List.flatMap_cons, List.cons_append, List.append_assoc,
            List.cons.injEq, true_and] at hsame
          obtain ⟨rfl, hlater⟩ := escape_append_inj hsame
          obtain ⟨rfl, hrest⟩ := ih (by simpa [encode] using hlater)
          exact ⟨rfl, hrest⟩

end Quoted

theorem quoted_append_inj {text other : String} {rest rest' : List Char}
    (hsame : (quoted text).toList ++ rest = (quoted other).toList ++ rest') :
    text = other ∧ rest = rest' := by
  simp only [quoted, String.toList_ofList] at hsame
  obtain ⟨htext, hrest⟩ := Quoted.encode_append_inj hsame
  exact ⟨String.toList_inj.mp htext, hrest⟩

end RecordExtraction
