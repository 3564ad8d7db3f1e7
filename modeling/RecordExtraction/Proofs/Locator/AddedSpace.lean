import Mathlib
import RecordExtraction.Proofs.Locator.TokenEnds
import RecordExtraction.Proofs.Text.Quoted

/-!
# White space around tokens

White space may be added in front of any token and at the end.  The tokens stay the same and move to
the right by the bytes that were added in front of them.  For behind the added white space the text
begins as before, and right behind a token there is either white space now, which ends every token,
or what ended the token before.
-/

namespace RecordExtraction
namespace Locator

/-- The second text is the first one with white space added in front of tokens and at the end, where
`added` bytes have been added already.  The tokens of the first text are in their places in the
second one. -/
inductive Loosened : Nat → List Lexeme → List Char → List Lexeme → List Char → Prop
  | nil {added : Nat} {gap wider : List Char} (hgap : gap.Sublist wider)
      (hwider : ∀ c ∈ wider, isSpace c = true) : Loosened added [] gap [] wider
  | cons {added more : Nat} {lexeme : Lexeme} {lexemes moved : List Lexeme}
      {gap wider chars rest looser : List Char} (hgap : gap.Sublist wider)
      (hwider : ∀ c ∈ wider, isSpace c = true)
      (hmore : byteLength wider = byteLength gap + more) (hspells : lexeme.token.Spells chars)
      (hrest : Loosened (added + more) lexemes rest moved looser) :
      Loosened added (lexeme :: lexemes) (gap ++ (chars ++ rest))
        ({ lexeme with offset := lexeme.offset + (added + more) } :: moved)
        (wider ++ (chars ++ looser))

/-- Where the first text ends a token, the second one does so as well. -/
structure EndsAlike (text looser : List Char) : Prop where
  head : ∀ c ∈ looser.head?, isSpace c = true ∨ c ∈ text.head?
  colon : ∀ c more, looser = ':' :: c :: more → c = ':'
  paren : OpensParen looser ↔ OpensParen text
  axis : OpensAxis looser ↔ OpensAxis text

section

variable {text looser chars rest : List Char} {token : Token}

theorem EndsAlike.forall_head {p : Char → Prop} (halike : EndsAlike text looser)
    (hspace : ∀ c, isSpace c = true → p c) (htext : ∀ c ∈ text.head?, p c) :
    ∀ c ∈ looser.head?, p c := by
  intro c hc
  rcases halike.head c hc with hc | hc
  · exact hspace c hc
  · exact htext c hc

theorem EndsAlike.not_mem {c : Char} (halike : EndsAlike text looser) (hc : isSpace c = false)
    (htext : c ∉ text.head?) : c ∉ looser.head? := by
  intro hmem
  rcases halike.head c hmem with hspace | hsame
  · rw [hc] at hspace
    cases hspace
  · exact htext hsame

theorem EndsAlike.stopsName (halike : EndsAlike text looser) (hstops : StopsName text) :
    StopsName looser :=
  halike.forall_head (fun _ hspace => isNameChar_eq_false_of_isSpace hspace) hstops

theorem EndsAlike.endsBefore (halike : EndsAlike text looser) (hends : token.EndsBefore text) :
    token.EndsBefore looser := by
  cases token with
  | operator operator =>
      rcases operator with _ | _ | comparison | arithmetic | _
      · exact halike.stopsName hends
      · exact halike.stopsName hends
      · cases comparison <;> first | exact trivial | exact halike.not_mem (by decide) hends
      · cases arithmetic <;> first | exact trivial | exact halike.stopsName hends
      · trivial
  | slash => exact halike.not_mem (by decide) hends
  | dot =>
      refine ⟨halike.not_mem (by decide) hends.1, halike.forall_head ?_ hends.2⟩
      exact fun _ hspace => isDigit_eq_false_of_isSpace hspace
  | number digits =>
      refine halike.forall_head ?_ hends
      intro c hspace
      have hpoint : c ≠ '.' := ne_of_class hspace (by decide)
      exact ⟨isDigit_eq_false_of_isSpace hspace, fun hc => absurd hc hpoint⟩
  | variableName name =>
      refine ⟨halike.stopsName hends.1, .inr ?_⟩
      intro c more hlooser
      rw [halike.colon c more hlooser]
      decide
  | nameTest qualifier? name? =>
      cases name? with
      | none => cases qualifier? <;> trivial
      | some name =>
          cases qualifier? with
          | none =>
              obtain ⟨hstops, hcolon, hparen, haxis⟩ := hends
              exact ⟨halike.stopsName hstops, halike.not_mem (by decide) hcolon,
                halike.paren.not.mpr hparen, halike.axis.not.mpr haxis⟩
          | some qualifier => exact ⟨halike.stopsName hends.1, halike.paren.not.mpr hends.2⟩
  | nodeType type => exact halike.paren.mpr hends
  | functionName name => exact halike.paren.mpr hends
  | axisName name => exact halike.axis.mpr hends
  | _ => trivial

end

section

variable {afterOperand : Bool} {offset added : Nat} {text looser chars rest : List Char}
  {lexemes moved : List Lexeme}

theorem Loosened.map_token (hloosened : Loosened added lexemes text moved looser) :
    moved.map Lexeme.token = lexemes.map Lexeme.token := by
  induction hloosened with
  | nil => rfl
  | cons _ _ _ _ _ ih => rw [List.map_cons, List.map_cons, ih]

theorem endsAlike_of_spaces (htext : ∀ c ∈ text, isSpace c = true)
    (hlooser : ∀ c ∈ looser, isSpace c = true) : EndsAlike text looser := by
  have hnone : text.dropWhile isSpace = [] := List.dropWhile_eq_nil_iff.mpr htext
  have hnone' : looser.dropWhile isSpace = [] := List.dropWhile_eq_nil_iff.mpr hlooser
  constructor
  · intro c hc
    exact .inl (hlooser c (List.mem_of_head? hc))
  · rintro c more rfl
    exact absurd (hlooser ':' List.mem_cons_self) (by decide)
  · simp [OpensParen, hnone, hnone']
  · simp [OpensAxis, hnone, hnone']

/-- Where nothing is added in front of a token, the text begins with the same character, and two
colons stay together. -/
theorem endsAlike_of_spells {token : Token} {gap wider : List Char}
    (hspells : token.Spells chars) (hgap : gap.Sublist wider)
    (hwider : ∀ c ∈ wider, isSpace c = true) :
    EndsAlike (gap ++ (chars ++ rest)) (wider ++ (chars ++ looser)) := by
  have hspaces : ∀ c ∈ gap, isSpace c = true := fun c hc => hwider c (hgap.mem hc)
  constructor
  · intro c hc
    cases wider with
    | nil =>
        obtain rfl := List.sublist_nil.mp hgap
        rcases hspells.exists_head with ⟨d, more, rfl, -⟩
        exact .inr hc
    | cons d wider =>
        cases hc
        exact .inl (hwider _ List.mem_cons_self)
  · intro c more hcolon
    cases wider with
    | nil =>
        rcases hspells.begins with ⟨-, rfl⟩ | ⟨-, rfl⟩ | ⟨-, -, d, later, rfl, hd⟩
        · cases hcolon
        · cases hcolon
          rfl
        · exact absurd (List.cons.inj hcolon).1 hd.2.2
    | cons d wider =>
        have hd : d ≠ ':' := ne_of_class (hwider d List.mem_cons_self) (by decide)
        exact absurd (List.cons.inj hcolon).1 hd
  · rw [hspells.opensParen_iff hwider, hspells.opensParen_iff hspaces]
  · rw [hspells.opensAxis_iff hwider, hspells.opensAxis_iff hspaces]

theorem endsAlike_of_loosened (hloosened : Loosened added lexemes text moved looser) :
    EndsAlike text looser := by
  cases hloosened with
  | nil hgap hwider => exact endsAlike_of_spaces (fun c hc => hwider c (hgap.mem hc)) hwider
  | cons hgap hwider _ hspells _ => exact endsAlike_of_spells hspells hgap hwider

/-- The first character tells a literal with one quotation mark from one with the other. -/
theorem Token.Spells.eq_of_head? {token : Token} {others : List Char}
    (hspells : token.Spells chars) (hothers : token.Spells others)
    (hhead : chars.head? = others.head?) : chars = others := by
  cases hspells with
  | literal =>
      cases hothers with
      | literal =>
          cases hhead
          rfl
  | _ => cases hothers; rfl

theorem Lexed.uncons {gap : List Char} {lexeme : Lexeme}
    (hlexed : Lexed afterOperand offset (gap ++ (chars ++ rest)) (lexeme :: lexemes))
    (hgap : ∀ c ∈ gap, isSpace c = true) (hspells : lexeme.token.Spells chars) :
    lexeme.token.FitsAfter afterOperand ∧ lexeme.token.EndsBefore rest ∧
      lexeme.offset = offset + byteLength gap ∧ chars.head? = some lexeme.head ∧
        Lexed lexeme.token.endsOperand (lexeme.offset + byteLength chars) rest lexemes := by
  generalize htext : gap ++ (chars ++ rest) = text at hlexed
  cases hlexed with
  | @cons _ _ gap' chars' rest' _ _ hgap' hspells' hafter hends hoffset hhead hrest =>
      rcases hspells.exists_head with ⟨c, more, rfl, hc⟩
      rcases hspells'.exists_head with ⟨d, later, rfl, hd⟩
      rw [List.head?_cons, Option.some.injEq] at hhead
      have hstops : ∀ e ∈ (c :: more ++ rest).head?, isSpace e = false := by
        rintro e ⟨⟩
        exact hc
      have hstops' : ∀ e ∈ (d :: later ++ rest').head?, isSpace e = false := by
        rintro e ⟨⟩
        exact hd
      rcases append_inj_of_stop hgap hgap' hstops hstops' htext with ⟨rfl, hsame⟩
      rw [List.cons_append, List.cons_append, List.cons.injEq] at hsame
      rcases hsame with ⟨rfl, hsame⟩
      obtain rfl : more = later := (List.cons.inj (hspells.eq_of_head? hspells' rfl)).2
      obtain rfl := List.append_cancel_left hsame
      exact ⟨hafter, hends, hoffset, congrArg some hhead, hrest⟩

theorem Lexed.loosened_self (hlexed : Lexed afterOperand offset text lexemes) :
    Loosened 0 lexemes text lexemes text := by
  induction hlexed with
  | nil hgap => exact .nil (List.Sublist.refl _) hgap
  | cons hgap hspells _ _ _ _ _ ih =>
      exact @Loosened.cons 0 0 _ _ _ _ _ _ _ _ (List.Sublist.refl _) hgap rfl hspells ih

theorem Lexed.loosened (hlexed : Lexed afterOperand offset text lexemes)
    (hloosened : Loosened added lexemes text moved looser) :
    Lexed afterOperand (offset + added) looser moved := by
  induction hloosened generalizing afterOperand offset with
  | nil _ hwider => exact .nil hwider
  | @cons added more lexeme lexemes moved gap wider chars rest looser hgap hwider hmore hspells
      hrest ih =>
      have hspaces : ∀ c ∈ gap, isSpace c = true := fun c hc => hwider c (hgap.mem hc)
      rcases hlexed.uncons hspaces hspells with ⟨hafter, hends, hoffset, hhead, hlater⟩
      have hplace : lexeme.offset + (added + more) = offset + added + byteLength wider := by
        omega
      have hmoved := ih hlater
      rw [Nat.add_right_comm] at hmoved
      exact .cons hwider hspells hafter ((endsAlike_of_loosened hrest).endsBefore hends) hplace
        hhead hmoved

end

/-- White space that is added around the tokens of a text leaves them as they are, and moves each of
them to the right by the bytes that are added before it. -/
theorem tokens_survive_added_space {text : String} {lexemes : List Lexeme}
    (htokens : tokenize text = .ok lexemes) :
    Loosened 0 lexemes text.toList lexemes text.toList ∧
    ∀ (looser : String) (moved : List Lexeme),
      Loosened 0 lexemes text.toList moved looser.toList →
        tokenize looser = .ok moved ∧ moved.map Lexeme.token = lexemes.map Lexeme.token := by
  have hlexed : Lexed false 0 text.toList lexemes := scan_eq_ok_iff.mp htokens
  constructor
  · exact hlexed.loosened_self
  · intro looser moved hloosened
    have hmoved := hlexed.loosened hloosened
    exact ⟨scan_eq_ok_iff.mpr hmoved, hloosened.map_token⟩

/-- A prefix, a point, a parenthesis and two colons, with nothing between them. -/
def denseLexemes : List Lexeme :=
  [⟨.functionName "x:f", 0, 'x'⟩, ⟨.leftParen, 3, '('⟩, ⟨.number ".5", 4, '.'⟩,
    ⟨.rightParen, 6, ')'⟩, ⟨.slash, 7, '/'⟩, ⟨.axisName "self", 8, 's'⟩, ⟨.axisMark, 12, ':'⟩,
    ⟨.nameTest none (some "y"), 14, 'y'⟩]

def looseLexemes : List Lexeme :=
  [⟨.functionName "x:f", 1, 'x'⟩, ⟨.leftParen, 5, '('⟩, ⟨.number ".5", 7, '.'⟩,
    ⟨.rightParen, 9, ')'⟩, ⟨.slash, 10, '/'⟩, ⟨.axisName "self", 13, 's'⟩, ⟨.axisMark, 18, ':'⟩,
    ⟨.nameTest none (some "y"), 20, 'y'⟩]

theorem Loosened.gap {added : Nat} {lexeme : Lexeme} {lexemes moved : List Lexeme}
    {chars rest looser : List Char} (wider : List Char)
    (hwider : ∀ c ∈ wider, isSpace c = true) (hspells : lexeme.token.Spells chars)
    (hrest : Loosened (added + byteLength wider) lexemes rest moved looser) :
    Loosened added (lexeme :: lexemes) (chars ++ rest)
      ({ lexeme with offset := lexeme.offset + (added + byteLength wider) } :: moved)
      (wider ++ (chars ++ looser)) :=
  .cons (List.nil_sublist wider) hwider (Nat.zero_add _).symm hspells hrest

theorem loosened_denseLexemes :
    Loosened 0 denseLexemes "x:f(.5)/self::y".toList
      looseLexemes " x:f\t( .5)/\r\nself ::y ".toList := by
  have hnone : ∀ c ∈ [], isSpace c = true := List.forall_mem_nil _
  have hspace : ∀ c ∈ [' '], isSpace c = true := by simp [isSpace]
  have htab : ∀ c ∈ ['\t'], isSpace c = true := by simp [isSpace]
  have hline : ∀ c ∈ ['\r', '\n'], isSpace c = true := by simp [isSpace]
  have hend : Loosened 6 [] [] [] [' '] := .nil (List.nil_sublist _) hspace
  have hname : IsQualifiedName "x:f".toList := .inr ⟨['x'], ['f'], by decide, by decide, by simp⟩
  have hloosened : Loosened 0 denseLexemes _ looseLexemes _ :=
    .gap [' '] hspace (.functionName hname rfl) <| .gap ['\t'] htab .leftParen <|
    .gap [' '] hspace (.number (by decide)) <| .gap [] hnone .rightParen <|
    .gap [] hnone .slash <| .gap ['\r', '\n'] hline (.axisName (by decide)) <|
    .gap [' '] hspace .axisMark <| .gap [] hnone (.localName (by decide)) hend
  exact hloosened

theorem denseLexemes_survive_added_space :
    tokenize "x:f(.5)/self::y" = .ok denseLexemes ∧
    Loosened 0 denseLexemes "x:f(.5)/self::y".toList
      looseLexemes " x:f\t( .5)/\r\nself ::y ".toList ∧
    tokenize " x:f\t( .5)/\r\nself ::y " = .ok looseLexemes := by
  have htokens : tokenize "x:f(.5)/self::y" = .ok denseLexemes := by rfl
  have hsurvive := tokens_survive_added_space htokens
  exact ⟨htokens, loosened_denseLexemes, (hsurvive.2 _ _ loosened_denseLexemes).1⟩

end Locator
end RecordExtraction
