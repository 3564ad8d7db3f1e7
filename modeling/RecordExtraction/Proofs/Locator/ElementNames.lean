import Mathlib
import RecordExtraction.Proofs.Locator.OwnName
import RecordExtraction.Proofs.Text.Trimming

/-!
# Names of elements in locators

Locators and documents have their own classes of characters for names.  The two agree on ASCII,
where all characters with a meaning of their own are; beyond, neither class contains the other.  So
the name of an element, after a slash, is read as a name up to the first character that may not
stand in a name of a locator, and nothing else begins there: it is an error, unless only white space
is left, which is cut off before.
-/

namespace RecordExtraction

namespace Markup

/-- The element with the tag is a member of the root, and no other element is. -/
structure Document.RootElement (document : Document) (root : Nat) (tag : Tag) : Prop where
  isElement : document.tag? root = some tag
  atTop : document.parent? root = some 0
  alone : ∀ id other, document.tag? id = some other → document.parent? id = some 0 → id = root

end Markup

namespace Locator

open Item Markup

/-! ## The two classes of characters -/

section

variable {c : Char}

theorem isNameStart_of_ascii (hstart : Markup.isNameStart c = true) (hcolon : c ≠ ':')
    (hascii : c.toNat < 128) :
    isNameStart c = true := by
  simpa [Markup.isNameStart, isNameStart, isAlphabetic, hascii, hcolon] using hstart

theorem isNameChar_of_ascii (hchar : Markup.isNameChar c = true) (hcolon : c ≠ ':')
    (hascii : c.toNat < 128) :
    isNameChar c = true := by
  have hdot : c.toNat ≠ 183 := by omega
  have hmark : ¬768 ≤ c.toNat := by omega
  have htie : c.toNat ≠ 8255 ∧ c.toNat ≠ 8256 := by omega
  have hcases : ((c.isAlpha = true ∨ c = '_') ∨ c.isDigit = true) ∨ c = '-' ∨ c = '.' := by
    simpa [Markup.isNameChar, Markup.isNameStart, hascii, hcolon, hdot, hmark, htie, or_assoc]
      using hchar
  simp only [isNameChar, isAlphanumeric, isAlphabetic, isNumeric, if_pos hascii, Bool.or_eq_true,
    beq_iff_eq]
  tauto

/-- The codes of white space. -/
def blankCodes : List Nat :=
  [0x9, 0xa, 0xb, 0xc, 0xd, 0x20, 0x85, 0xa0, 0x1680, 0x2000, 0x2001, 0x2002, 0x2003, 0x2004,
    0x2005, 0x2006, 0x2007, 0x2008, 0x2009, 0x200a, 0x2028, 0x2029, 0x202f, 0x205f, 0x3000]

theorem toNat_mem_blankCodes (hblank : isBlank c = true) : c.toNat ∈ blankCodes := by
  simp only [isBlank, Bool.or_eq_true, Bool.and_eq_true, decide_eq_true_eq, beq_iff_eq] at hblank
  simp only [blankCodes, List.mem_cons, List.not_mem_nil, or_false]
  omega

theorem isNameChar_eq_false_of_isBlank (hblank : isBlank c = true) : isNameChar c = false := by
  have hall : ∀ code ∈ blankCodes, isNameChar (Char.ofNat code) = false := by decide +kernel
  have hcode := hall c.toNat (toNat_mem_blankCodes hblank)
  rwa [Char.ofNat_toNat] at hcode

end

/-! ## Where a name breaks off -/

/-- The characters are a name of locators, or there are none. -/
def IsNameOrEmpty (front : List Char) : Prop :=
  front = [] ∨ isName front = true

/-- The characters are followed by one beyond ASCII that no name of locators has after them. -/
structure BreaksAt (front : List Char) (c : Char) : Prop where
  before : IsNameOrEmpty front
  stops : isName (front ++ [c]) = false
  beyond : 128 ≤ c.toNat

theorem BreaksAt.of_not_isNameChar {front : List Char} {c : Char} (hfront : isName front = true)
    (hchar : Markup.isNameChar c = true) (hcolon : c ≠ ':') (hstops : isNameChar c = false) :
    BreaksAt front c := by
  refine ⟨.inr hfront, by simp [isName, hstops], ?_⟩
  by_contra hascii
  rw [isNameChar_of_ascii hchar hcolon (by omega)] at hstops
  cases hstops

theorem BreaksAt.of_not_isNameStart {c : Char} (hchar : Markup.isNameStart c = true)
    (hcolon : c ≠ ':') (hstops : isNameStart c = false) :
    BreaksAt [] c := by
  refine ⟨.inl rfl, by simp [isName, hstops], ?_⟩
  by_contra hascii
  rw [isNameStart_of_ascii hchar hcolon (by omega)] at hstops
  cases hstops

/-- A name of an element is a name of locators as far as a character beyond ASCII. -/
theorem isName_or_exists_break {chars : List Char} (hplain : isPlainName chars = true) :
    isName chars = true ∨ ∃ front c rest, chars = front ++ c :: rest ∧ BreaksAt front c := by
  cases chars with
  | nil => cases hplain
  | cons first chars =>
      simp only [isPlainName, Bool.and_eq_true, bne_iff_ne, List.all_eq_true] at hplain
      obtain ⟨⟨hfirst, hcolon⟩, hchars⟩ := hplain
      by_cases hstart : isNameStart first = true
      · cases hfind : chars.find? (fun d => !isNameChar d) with
        | none =>
            left
            apply isName_cons.mpr ⟨hstart, ?_⟩
            intro d hd
            simpa using List.find?_eq_none.mp hfind d hd
        | some c =>
            right
            obtain ⟨hstops, before, rest, rfl, hbefore⟩ := List.find?_eq_some_iff_append.mp hfind
            obtain ⟨hchar, hcolon⟩ := hchars c (by simp)
            have hname : isName (first :: before) = true := by
              apply isName_cons.mpr ⟨hstart, ?_⟩
              intro d hd
              simpa using hbefore d hd
            exact ⟨first :: before, c, rest, rfl,
              .of_not_isNameChar hname hchar hcolon (by simpa using hstops)⟩
      · right
        exact ⟨[], first, chars, rfl, .of_not_isNameStart hfirst hcolon (by simpa using hstart)⟩

theorem dropEndWhile_isBlank_of_isNameOrEmpty {front : List Char} (hfront : IsNameOrEmpty front) :
    dropEndWhile isBlank front = front := by
  rcases hfront with rfl | hfront
  · rfl
  · apply List.rdropWhile_eq_self_iff.mpr
    intro hne hblank
    have hchar := isNameChar_of_mem hfront (List.getLast_mem hne)
    rw [isNameChar_eq_false_of_isBlank hblank] at hchar
    cases hchar

/-! ## Scanning a slash and a name -/

section

variable {front rest : List Char} {c : Char} {afterOperand : Bool} {offset : Nat}

theorem isName_append_singleton (hname : isName front = true) :
    isName (front ++ [c]) = isNameChar c := by
  obtain ⟨first, more, rfl, hfirst⟩ := exists_of_isName hname
  have hall : (first :: more).all isNameChar = true := by
    rw [isName, Bool.and_eq_true] at hname
    exact hname.2
  simp only [isName, List.all_append, hall]
  simp [hfirst]

theorem BreaksAt.isNameStart_eq_false (hbreaks : BreaksAt front c) : isNameStart c = false := by
  have hstops := hbreaks.stops
  rcases hbreaks.before with rfl | hname
  · rw [List.nil_append, Bool.eq_false_iff, ne_eq, isName_cons] at hstops
    simpa using hstops
  · rw [isName_append_singleton hname] at hstops
    by_contra hstart
    rw [isNameChar_of_isNameStart (Bool.eq_true_of_not_eq_false hstart)] at hstops
    cases hstops

theorem ne_of_beyond {d : Char} (hbeyond : 128 ≤ c.toNat) (hascii : d.toNat < 128) : c ≠ d := by
  intro heq
  rw [heq] at hbeyond
  omega

theorem scanToken_beyond (hbeyond : 128 ≤ c.toNat) (hstart : isNameStart c = false) :
    scanToken afterOperand offset (c :: rest) = .error (.unexpectedChar c offset) := by
  have hdigit : c.isDigit = false := by
    rw [Bool.eq_false_iff, ne_eq, isDigit_iff]
    omega
  have hquote : (c == '"' || c == '\'') = false := by
    simp [ne_of_beyond (d := '"') hbeyond, ne_of_beyond (d := '\'') hbeyond]
  have hpoint : (c == '.') = false := by
    simp [ne_of_beyond (d := '.') hbeyond]
  -- No character beyond ASCII is a sign.
  rw [scanToken]
  · simp [hquote, hpoint, hdigit, hstart]
  all_goals
    intros
    subst c
    exact absurd hbeyond (by decide)

theorem isSpace_eq_false_of_beyond (hbeyond : 128 ≤ c.toNat) : isSpace c = false := by
  rw [Bool.eq_false_iff, ne_eq, isSpace_iff]
  rintro (rfl | rfl | rfl | rfl) <;> exact absurd hbeyond (by decide)

theorem scan_beyond (hbeyond : 128 ≤ c.toNat) (hstart : isNameStart c = false) :
    scan afterOperand offset 0 (c :: rest) = .error (.unexpectedChar c offset) := by
  rw [scan, if_neg (by simp [isSpace_eq_false_of_beyond hbeyond]),
    scanToken_beyond hbeyond hstart]

/-- A name is scanned up to the character that breaks it off. -/
theorem scanToken_brokenName (hname : isName front = true)
    (hrest : ∀ c ∈ rest.head?, BreaksAt front c) :
    scanToken false offset (front ++ rest) =
      .ok ⟨.nameTest none (some (String.ofList front)), front.length⟩ := by
  have hstops : StopsName rest := by
    intro c hc
    rw [← isName_append_singleton hname]
    exact (hrest c hc).stops
  have hbegins : ∀ d : Char, d.toNat < 128 → ∀ more, rest ≠ d :: more := by
    intro d hd more heq
    have hbeyond := (hrest d (by rw [heq]; rfl)).beyond
    omega
  have hspaces : rest.dropWhile isSpace = rest := by
    cases rest with
    | nil => rfl
    | cons c rest =>
        have hbeyond := (hrest c rfl).beyond
        rw [List.dropWhile_cons_of_neg (by simp [isSpace_eq_false_of_beyond hbeyond])]
  have htoken : unqualified (String.ofList front) rest =
      .nameTest none (some (String.ofList front)) := by
    apply unqualified_of_other
    · intro more
      rw [hspaces]
      exact hbegins ':' (by decide) _
    · intro more
      rw [hspaces]
      exact hbegins '(' (by decide) _
  have hcolon : ':' ∉ rest.head? := not_mem_head?_of_ne_cons (hbegins ':' (by decide))
  rw [scanToken_unqualified hname hstops fun hc => absurd hc hcolon, htoken]

theorem exists_scan_brokenName (offset : Nat) (hname : isName front = true)
    (hrest : ∀ c ∈ rest.head?, BreaksAt front c) :
    ∃ lexeme : Lexeme, lexeme.token = .nameTest none (some (String.ofList front)) ∧
      scan false offset 0 (front ++ rest) =
        (scan true (offset + byteLength front) 0 rest).map (lexeme :: ·) := by
  have hscanned : scanToken false offset (front ++ rest) = _ := scanToken_brokenName hname hrest
  obtain ⟨first, more, rfl, hfirst⟩ := exists_of_isName hname
  obtain ⟨_, _, hhead, hspace, -, -⟩ := beginsOther_of_isNameStart hfirst more
  cases hhead
  exact ⟨⟨_, offset, first⟩, rfl, scan_token hspace hscanned⟩

/-- The slash before a name is not the first of two. -/
theorem scan_slash (hfront : IsNameOrEmpty front) (hrest : ∀ c ∈ rest.head?, BreaksAt front c) :
    scan false 0 0 ('/' :: (front ++ rest)) =
      (scan false 1 0 (front ++ rest)).map (⟨.slash, 0, '/'⟩ :: ·) := by
  have hnext : '/' ∉ (front ++ rest).head? := by
    intro hslash
    rcases hfront with rfl | hname
    · have hbeyond := (hrest '/' hslash).beyond
      exact absurd hbeyond (by decide)
    · obtain ⟨first, more, rfl, hfirst⟩ := exists_of_isName hname
      cases hslash
      exact absurd hfirst (by decide)
  exact @scan_token false 0 '/' [] (front ++ rest) .slash rfl (scanToken_slash hnext)

/-- The path to the elements at the top that have the name. -/
def topNamed (name : String) : Expr :=
  .path .root [.mk .child (.name none (some name)) []]

/-- What is read of a slash and the characters of a name, of which there may be none. -/
def pathTo (front : List Char) : Expr :=
  if front.isEmpty then .path .root [] else topNamed (String.ofList front)

theorem pathTo_of_isName (hname : isName front = true) :
    pathTo front = topNamed (String.ofList front) := by
  obtain ⟨first, more, rfl, -⟩ := exists_of_isName hname
  rfl

theorem toList_eq_of_topNamed_eq_pathTo {name : String} (hpath : topNamed name = pathTo front) :
    name.toList = front := by
  unfold pathTo topNamed at hpath
  split at hpath
  · cases hpath
  · cases hpath
    exact String.toList_ofList

/-- A slash and a name are scanned up to the character that breaks the name off. -/
theorem exists_scan_slash (hfront : IsNameOrEmpty front)
    (hrest : ∀ c ∈ rest.head?, BreaksAt front c) :
    ∃ lexemes afterOperand,
      Parser.parseTokens lexemes = .ok (pathTo front) ∧
      scan false 0 0 ('/' :: (front ++ rest)) =
        (scan afterOperand (1 + byteLength front) 0 rest).map (lexemes ++ ·) := by
  rw [scan_slash hfront hrest]
  rcases hfront with rfl | hname
  · refine ⟨[⟨.slash, 0, '/'⟩], false, ?_, rfl⟩
    exact Parser.parseTokens_of_derives_path .root
  · obtain ⟨lexeme, htoken, hscan⟩ := exists_scan_brokenName 1 hname hrest
    refine ⟨[⟨.slash, 0, '/'⟩, lexeme], true, ?_, ?_⟩
    · rw [pathTo_of_isName hname]
      apply Parser.parseTokens_of_derives_path
      simp only [List.map_cons, List.map_nil, htoken]
      exact .absolute (.lastStep (.childStep .nameTest .noPredicates))
    · rw [hscan]
      cases scan true (1 + byteLength front) 0 rest <;> rfl

end

/-! ## Compiling a slash and a name -/

section

variable {name : String} {front rest : List Char} {c : Char}

theorem trimBlank_slash (name : String) :
    trimBlank ("/" ++ name) = String.ofList ('/' :: dropEndWhile isBlank name.toList) := by
  have hslash : ¬isBlank '/' = true := by decide
  have hend : dropEndWhile isBlank (['/'] ++ name.toList) =
      '/' :: dropEndWhile isBlank name.toList := by
    by_cases hnil : dropEndWhile isBlank name.toList = []
    · rw [dropEndWhile_append_of_all (dropEndWhile_eq_nil_iff.mp hnil), hnil]
      rfl
    · rw [dropEndWhile_append_of_ne_nil hnil]
      rfl
  rw [trimBlank, String.toList_append, trimWhile]
  have htext : "/".toList ++ name.toList = '/' :: name.toList := rfl
  rw [htext, List.dropWhile_cons_of_neg hslash]
  exact congrArg String.ofList hend

theorem compile_slash (name : String) :
    compile ("/" ++ name) =
      (Parser.parse (String.ofList ('/' :: dropEndWhile isBlank name.toList))).map
        (⟨"/" ++ name, ·⟩) := by
  have hne : (String.ofList ('/' :: dropEndWhile isBlank name.toList)).isEmpty = false := by
    simp [String.isEmpty_eq_false_iff]
  unfold compile
  simp only [trimBlank_slash, hne]
  cases Parser.parse (String.ofList ('/' :: dropEndWhile isBlank name.toList)) <;> rfl

/-- White space after a name is cut off, so that only the name is read. -/
theorem compile_of_blank_end (hfront : IsNameOrEmpty front)
    (hrest : ∀ c ∈ rest, isBlank c = true) (hname : name.toList = front ++ rest) :
    compile ("/" ++ name) = .ok ⟨"/" ++ name, pathTo front⟩ := by
  have htrimmed : dropEndWhile isBlank name.toList = front := by
    rw [hname, dropEndWhile_append_of_all hrest, dropEndWhile_isBlank_of_isNameOrEmpty hfront]
  have hnext : ∀ c ∈ ([] : List Char).head?, BreaksAt front c := by simp
  obtain ⟨lexemes, afterOperand, hparse, hscan⟩ := exists_scan_slash hfront hnext
  have htokens : tokenize (String.ofList ('/' :: front)) = .ok lexemes := by
    rw [List.append_nil] at hscan
    rw [tokenize, String.toList_ofList, hscan, scan, Except.map, List.append_nil]
  rw [compile_slash, htrimmed, Parser.parse, htokens, ok_bind, hparse]
  rfl

/-- The character that breaks a name off is an error, unless it is cut off as white space. -/
theorem compile_of_break (hbreaks : BreaksAt front c) (hname : name.toList = front ++ c :: rest)
    (hrest : ∃ d ∈ c :: rest, isBlank d = false) :
    compile ("/" ++ name) = .error (.unexpectedChar c (1 + byteLength front)) := by
  have hkept : dropEndWhile isBlank (c :: rest) ≠ [] := by
    intro hnil
    rcases hrest with ⟨d, hd, hblank⟩
    rw [dropEndWhile_eq_nil_iff.mp hnil d hd] at hblank
    cases hblank
  obtain ⟨more, hmore⟩ := exists_dropEndWhile_cons hkept
  have htrimmed : dropEndWhile isBlank name.toList = front ++ c :: more := by
    rw [hname, dropEndWhile_append_of_ne_nil hkept, hmore]
  have hnext : ∀ d ∈ (c :: more).head?, BreaksAt front d := by
    rintro d hd
    cases hd
    exact hbreaks
  obtain ⟨lexemes, afterOperand, -, hscan⟩ := exists_scan_slash hbreaks.before hnext
  have htokens : tokenize (String.ofList ('/' :: (front ++ c :: more))) =
      .error (.unexpectedChar c (1 + byteLength front)) := by
    rw [tokenize, String.toList_ofList, hscan,
      scan_beyond hbreaks.beyond hbreaks.isNameStart_eq_false]
    rfl
  rw [compile_slash, htrimmed, Parser.parse, htokens]
  rfl

end

/-! ## The root element -/

theorem select_topNamed {document : Document} {root : Nat} {tag : Tag}
    (hroot : document.RootElement root tag) (text : String) :
    (⟨text, topNamed tag.name⟩ : Locator).select document = .ok [.node root] := by
  have haccepts : ∀ id, (NodeTest.name none (some tag.name)).accepts document .child (.node id) =
      (document.tag? id).any fun other => tag.name == other.name := by
    intro id
    cases hother : document.tag? id with
    | none => simp [NodeTest.accepts, hother]
    | some other => simp [NodeTest.accepts, testElement, agrees, hother]
  have hitems : reach document [(.child, .name none (some tag.name))] [.node 0] =
      [.node root] := by
    apply (inOrder_reach (List.pairwise_singleton _ _)).ext (List.pairwise_singleton _ _)
    intro item
    simp only [reach, mem_normalize, List.mem_flatMap, List.mem_singleton, exists_eq_left,
      mem_candidates, Axis.items, List.mem_map, Document.mem_children]
    constructor
    · intro h
      rcases h with ⟨⟨id, hparent, rfl⟩, hname⟩
      rw [haccepts, Option.any_eq_true] at hname
      rcases hname with ⟨other, hother, -⟩
      rw [hroot.alone id other hother hparent]
    · intro h
      subst h
      refine ⟨⟨root, hroot.atTop, rfl⟩, ?_⟩
      rw [haccepts, hroot.isElement]
      simp
  have hwalk : walk document [.mk .child (.name none (some tag.name)) []] [.node 0] = .ok _ :=
    walk_plain [(.child, .name none (some tag.name))] [.node 0]
  have heval : (topNamed tag.name).eval document rootContext = .ok (.nodes [.node root]) := by
    rw [hitems] at hwalk
    simp only [topNamed, Expr.eval, Start.items, ok_bind, hwalk]
  rw [select, heval]
  rfl

/-- The name of an element can be written after a slash exactly when its characters are those of
names of locators as well.  Then the locator denotes the one step to the children with this name,
and selects the root element of every document where the root element has it.  Otherwise the name
breaks off at a character beyond ASCII.  That character is an error, except where it begins white
space at the end of the name: this is cut off, and the locator is about a shorter name. -/
theorem element_names_in_locators {name : String} (hname : isPlainName name.toList = true) :
    (compile ("/" ++ name) = .ok ⟨"/" ++ name, topNamed name⟩ ↔ isName name.toList = true) ∧
    (∀ document root tag, document.RootElement root tag → tag.name = name →
      (⟨"/" ++ name, topNamed name⟩ : Locator).select document = .ok [.node root]) ∧
    (isName name.toList = false →
      ∃ front c rest, name.toList = front ++ c :: rest ∧ BreaksAt front c ∧
        compile ("/" ++ name) =
          if (c :: rest).all isBlank then .ok ⟨"/" ++ name, pathTo front⟩
          else .error (.unexpectedChar c (1 + byteLength front))) := by
  have hbroken : isName name.toList = false →
      ∃ front c rest, name.toList = front ++ c :: rest ∧ BreaksAt front c ∧
        compile ("/" ++ name) =
          if (c :: rest).all isBlank then .ok ⟨"/" ++ name, pathTo front⟩
          else .error (.unexpectedChar c (1 + byteLength front)) := by
    intro hnot
    rcases isName_or_exists_break hname with hchars | ⟨front, c, rest, hchars, hbreaks⟩
    · rw [hnot] at hchars
      cases hchars
    · refine ⟨front, c, rest, hchars, hbreaks, ?_⟩
      by_cases hblank : (c :: rest).all isBlank = true
      · rw [if_pos hblank]
        exact compile_of_blank_end hbreaks.before (List.all_eq_true.mp hblank) hchars
      · rw [if_neg hblank]
        apply compile_of_break hbreaks hchars
        simpa only [Bool.not_eq_true, List.all_eq_false] using hblank
  refine ⟨⟨?_, ?_⟩, ?_, hbroken⟩
  · intro hcompile
    by_contra hnot
    obtain ⟨front, c, rest, hchars, -, hresult⟩ := hbroken (Bool.eq_false_of_not_eq_true hnot)
    rw [hcompile] at hresult
    split at hresult
    · -- The name that is read is shorter.
      have hpath : topNamed name = pathTo front := by
        simpa using hresult
      have hshort := toList_eq_of_topNamed_eq_pathTo hpath
      rw [hchars] at hshort
      simp at hshort
    · cases hresult
  · intro hchars
    have hrest : ∀ c ∈ ([] : List Char), isBlank c = true := by simp
    have hcompile := compile_of_blank_end (.inr hchars) hrest (List.append_nil _).symm
    rw [hcompile, pathTo_of_isName hchars, String.ofList_toList]
  · intro document root tag hroot htag
    subst htag
    exact select_topNamed hroot _

/-- The start tag of an element whose name has letters beyond ASCII. -/
def lengthTag : Tag := ⟨none, "l\u00e4nge", [], {}⟩

/-- The root element comes after a comment and holds another element of its name. -/
def lengthDocument : Document :=
  .ofContent (.leaf (.comment "cm") (.element lengthTag (.element lengthTag .nil .nil) .nil))

theorem rootElement_lengthDocument : lengthDocument.RootElement 2 lengthTag := by
  have hchildren : lengthDocument.children 0 = [1, 2] := by cbv
  constructor
  · rfl
  · rw [← Document.mem_children, hchildren]
    simp
  · intro id other hother hparent
    rw [← Document.mem_children, hchildren] at hparent
    rcases List.mem_pair.mp hparent with rfl | rfl
    · cases hother
    · rfl

theorem length_and_dotted_names_in_locators :
    isPlainName "l\u00e4nge".toList = true ∧
    isName "l\u00e4nge".toList = true ∧
    compile ("/" ++ "l\u00e4nge") = .ok ⟨"/" ++ "l\u00e4nge", topNamed "l\u00e4nge"⟩ ∧
    lengthDocument.RootElement 2 lengthTag ∧
    (⟨"/" ++ "l\u00e4nge", topNamed "l\u00e4nge"⟩ : Locator).select lengthDocument =
      .ok [.node 2] ∧
    isPlainName "a\u00b7b".toList = true ∧
    isName "a\u00b7b".toList = false ∧
    ∃ front c rest, "a\u00b7b".toList = front ++ c :: rest ∧ BreaksAt front c ∧
      compile ("/" ++ "a\u00b7b") =
        if (c :: rest).all isBlank then .ok ⟨"/" ++ "a\u00b7b", pathTo front⟩
        else .error (.unexpectedChar c (1 + byteLength front)) := by
  have hplain : isPlainName "l\u00e4nge".toList = true := by decide
  have hname : isName "l\u00e4nge".toList = true := by decide +kernel
  have hdottedPlain : isPlainName "a\u00b7b".toList = true := by decide
  have hdottedName : isName "a\u00b7b".toList = false := by decide +kernel
  obtain ⟨hcompile, hselect, -⟩ := element_names_in_locators hplain
  obtain ⟨-, -, hbreaks⟩ := element_names_in_locators hdottedPlain
  exact ⟨hplain, hname, hcompile.mpr hname, rootElement_lengthDocument,
    hselect _ _ _ rootElement_lengthDocument rfl, hdottedPlain, hdottedName, hbreaks hdottedName⟩

/-- The root element has a name with a middle dot in it. -/
def dottedDocument : Document := .ofContent (.element ⟨none, "a\u00b7b", [], {}⟩ .nil .nil)

/-- The middle dot may stand in the name of an element, but not in a name of a locator. -/
theorem dotted_name_not_in_locator :
    isPlainName "a\u00b7b".toList = true ∧
    Document.parse ⟨false, 10⟩ "<a\u00b7b/>" = .ok dottedDocument ∧
    compile "/a\u00b7b" = .error (.unexpectedChar '\u00b7' 2) := by
  have htext : "/a\u00b7b" = "/" ++ "a\u00b7b" := by decide
  have hbreaks : BreaksAt ['a'] '\u00b7' := ⟨.inr (by decide), by decide +kernel, by decide⟩
  have hrest : ∃ d ∈ ['\u00b7', 'b'], isBlank d = false := ⟨'b', by simp, rfl⟩
  refine ⟨by decide, by cbv, ?_⟩
  rw [htext]
  exact compile_of_break hbreaks rfl hrest

end Locator
end RecordExtraction
