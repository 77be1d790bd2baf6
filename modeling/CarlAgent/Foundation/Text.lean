import Mathlib.Algebra.GroupWithZero.Nat
import Mathlib.Data.String.Basic
import Mathlib.Data.List.DropRight

/-!
# Texts as the standard string functions see them

Character classes and searches on lists of characters, and their forms on
strings.  Sizes are in bytes of UTF-8.
-/

namespace CarlAgent.Foundation.Text

open List

variable (c : Char)

/-- The characters of Unicode category Cc. -/
def isControl : Bool :=
  decide (c.toNat < 0x20) || (decide (0x7f ≤ c.toNat) && decide (c.toNat < 0xa0))

/-- The characters with the Unicode property White_Space. -/
def isWhitespace : Bool :=
  let n := c.toNat
  (decide (0x9 ≤ n) && decide (n ≤ 0xd)) || n == 0x20 || n == 0x85 || n == 0xa0 ||
    n == 0x1680 || (decide (0x2000 ≤ n) && decide (n ≤ 0x200a)) || n == 0x2028 ||
    n == 0x2029 || n == 0x202f || n == 0x205f || n == 0x3000

def isAsciiDigit : Bool :=
  decide ('0' ≤ c) && decide (c ≤ '9')

def isAsciiUppercase : Bool :=
  decide ('A' ≤ c) && decide (c ≤ 'Z')

def isAsciiLowercase : Bool :=
  decide ('a' ≤ c) && decide (c ≤ 'z')

def isAsciiAlphanumeric : Bool :=
  isAsciiDigit c || isAsciiUppercase c || isAsciiLowercase c

def toAsciiLowercase : Char :=
  if isAsciiUppercase c then Char.ofNat (c.toNat + 32) else c

variable (text : List Char)

def byteLen : Nat :=
  (text.map Char.utf8Size).sum

def utf8 : List UInt8 :=
  text.flatMap String.utf8EncodeChar

def trimStartMatches (p : Char → Bool) (text : List Char) : List Char :=
  text.dropWhile p

def trimEndMatches (p : Char → Bool) (text : List Char) : List Char :=
  (text.reverse.dropWhile p).reverse

def trimMatches (p : Char → Bool) (text : List Char) : List Char :=
  trimEndMatches p (trimStartMatches p text)

def trim : List Char :=
  trimMatches isWhitespace text

def findSub (needle : List Char) : List Char → Option (List Char)
  | [] => if needle = [] then some [] else none
  | c :: rest =>
    if needle.isPrefixOf (c :: rest) then some (c :: rest)
    else findSub needle rest

def containsSub (needle text : List Char) : Bool :=
  (findSub needle text).isSome

def startsWith (needle text : List Char) : Bool :=
  needle.isPrefixOf text

def endsWith (needle text : List Char) : Bool :=
  needle.isSuffixOf text

/-- The number of occurrences of `needle` that do not overlap, once `skip`
characters have passed. -/
def countSub (needle : List Char) : (skip : Nat) → List Char → Nat
  | _, [] => 0
  | skip + 1, _ :: rest => countSub needle skip rest
  | 0, c :: rest =>
    if needle.isPrefixOf (c :: rest) then
      1 + countSub needle (needle.length - 1) rest
    else countSub needle 0 rest

def replaceFirst (needle replacement : List Char) : List Char → List Char
  | [] => []
  | c :: rest =>
    if needle.isPrefixOf (c :: rest) then
      replacement ++ (c :: rest).drop needle.length
    else c :: replaceFirst needle replacement rest

def splitOnce (p : Char → Bool) : List Char → Option (List Char × List Char)
  | [] => none
  | c :: rest =>
    if p c then some ([], rest)
    else (splitOnce p rest).map fun parts => (c :: parts.1, parts.2)

def rsplitOnce (p : Char → Bool) (text : List Char) : Option (List Char × List Char) :=
  (splitOnce p text.reverse).map fun parts => (parts.2.reverse, parts.1.reverse)

/-- The text around the last occurrence of `needle`. -/
def rsplitOnceSub (needle : List Char) : List Char → Option (List Char × List Char)
  | [] => if needle = [] then some ([], []) else none
  | c :: rest =>
    match rsplitOnceSub needle rest with
    | some (before, after) => some (c :: before, after)
    | none => (needle.isPrefixOf? (c :: rest)).map fun after => ([], after)

def lines : List Char → List (List Char)
  | [] => []
  | c :: rest =>
    if c = '\n' then [] :: lines rest
    else
      match rest, lines rest with
      | [], _ => [[c]]
      | '\n' :: _, line :: others =>
        (if c = '\r' then line else c :: line) :: others
      | _, line :: others => (c :: line) :: others
      | _, [] => [[c]]

def isBlank (text : String) : Bool :=
  text.toList.all isWhitespace

def hasControl (text : String) : Bool :=
  text.toList.any isControl

def isLowercaseHex : Bool :=
  isAsciiDigit c || (decide ('a' ≤ c) && decide (c ≤ 'f'))

def isLowercaseSha256 (text : String) : Bool :=
  text.utf8ByteSize == 64 && text.toList.all isLowercaseHex

def decimal (n : Nat) : List Char :=
  Nat.toDigits 10 n

/-- The lower-case hexadecimal digits of `n`, padded with zeros to `width`. -/
def hexadecimal (width n : Nat) : List Char :=
  let digits := Nat.toDigits 16 n
  List.replicate (width - digits.length) '0' ++ digits

def neighbours {α : Type} (l : List α) : List (α × α) :=
  l.zip l.tail

theorem neighbours_of_pairwise {α : Type} {r : α → α → Prop} {l : List α}
    (h : l.Pairwise r) : ∀ pair ∈ neighbours l, r pair.1 pair.2 := by
  induction h with
  | nil => simp [neighbours]
  | @cons a rest hfirst _ ih =>
    cases rest with
    | nil => simp [neighbours]
    | cons b rest =>
      simp only [neighbours, tail_cons, zip_cons_cons, forall_mem_cons] at ih ⊢
      exact ⟨hfirst b mem_cons_self, ih⟩

/-! ## Sizes -/

theorem byteLen_append (first second : List Char) :
    byteLen (first ++ second) = byteLen first + byteLen second := by
  simp [byteLen]

theorem byteLen_cons (c : Char) (text : List Char) :
    byteLen (c :: text) = c.utf8Size + byteLen text := by
  simp [byteLen]

theorem byteLen_flatMap_le {f : Char → List Char} {bound : Nat} (h : ∀ c, byteLen (f c) ≤ bound)
    (text : List Char) : byteLen (text.flatMap f) ≤ bound * text.length := by
  induction text with
  | nil => simp [byteLen]
  | cons c text ih =>
    have hc := h c
    rw [flatMap_cons, byteLen_append, length_cons, Nat.mul_succ]
    omega

variable {c : Char} {tail left right : List Char} {text : List Char} {width n : Nat}

theorem byteLen_eq_length (h : ∀ c ∈ text, c.utf8Size = 1) : byteLen text = text.length := by
  induction text with
  | nil => rfl
  | cons c text ih =>
    rw [forall_mem_cons] at h
    rw [byteLen_cons, h.1, ih h.2, length_cons, Nat.add_comm]

theorem byteLen_decimal (n : Nat) : byteLen (decimal n) = (decimal n).length := by
  apply byteLen_eq_length
  intro c hc
  have hdigit := Nat.isDigit_of_mem_toDigits (by omega) (by omega) hc
  simp only [Char.isDigit, Bool.and_eq_true, decide_eq_true_eq] at hdigit
  rw [Char.utf8Size_eq_one_iff]
  exact UInt32.le_trans hdigit.2 (by decide)

theorem isLowercaseHex_iff :
    isLowercaseHex c = true ↔ 48 ≤ c.toNat ∧ c.toNat ≤ 57 ∨ 97 ≤ c.toNat ∧ c.toNat ≤ 102 := by
  simp only [isLowercaseHex, isAsciiDigit, Bool.or_eq_true, Bool.and_eq_true,
    decide_eq_true_eq, Char.le_def, UInt32.le_iff_toNat_le]
  rfl

theorem isLowercaseHex_of_mem_toDigits {n : Nat}
    (h : c ∈ Nat.toDigits 16 n) : isLowercaseHex c = true := by
  have hdigit : ∀ m < 16, isLowercaseHex (Nat.digitChar m) = true := by decide
  induction n using Nat.strongRecOn with
  | ind n ih =>
    rw [Nat.toDigits_eq_if (by omega)] at h
    split at h
    · rename_i hlt
      rw [mem_singleton.mp h]
      exact hdigit n hlt
    · rename_i hge
      rcases mem_append.mp h with h | h
      · exact ih (n / 16) (by omega) h
      · rw [mem_singleton.mp h]
        exact hdigit (n % 16) (by omega)

theorem isLowercaseHex_of_mem_hexadecimal
    (h : c ∈ hexadecimal width n) : isLowercaseHex c = true := by
  rcases mem_append.mp h with h | h
  · rw [eq_of_mem_replicate h]
    decide
  · exact isLowercaseHex_of_mem_toDigits h

theorem length_hexadecimal (hwidth : 0 < width)
    (h : n < 16 ^ width) : (hexadecimal width n).length = width := by
  have hdigits := (Nat.length_toDigits_le_iff (by omega) hwidth).mpr h
  simp only [hexadecimal, length_append, length_replicate]
  omega

theorem utf8Size_of_isLowercaseHex (h : isLowercaseHex c = true) : c.utf8Size = 1 := by
  have hbounds := isLowercaseHex_iff.mp h
  rw [Char.utf8Size_eq_one_iff, UInt32.le_iff_toNat_le]
  change c.toNat ≤ 127
  omega

theorem utf8ByteSize_ofList (text : List Char) :
    (String.ofList text).utf8ByteSize = byteLen text := by
  rw [String.utf8ByteSize_ofList]
  induction text with
  | nil => rfl
  | cons c text ih =>
    rw [String.utf8Len_cons, ih, byteLen_cons, Nat.add_comm]

theorem isLowercaseSha256_hexadecimal {n : Nat} (h : n < 16 ^ 64) :
    isLowercaseSha256 (String.ofList (hexadecimal 64 n)) = true := by
  have hsize : (String.ofList (hexadecimal 64 n)).utf8ByteSize = 64 := by
    rw [utf8ByteSize_ofList, byteLen_eq_length, length_hexadecimal (by omega) h]
    intro c hc
    exact utf8Size_of_isLowercaseHex (isLowercaseHex_of_mem_hexadecimal hc)
  simp only [isLowercaseSha256, hsize, String.toList_ofList, beq_self_eq_true,
    Bool.true_and, all_eq_true]
  intro c hc
  exact isLowercaseHex_of_mem_hexadecimal hc

/-! ## Searches in a text -/

variable {needle text before found : List Char}

/-- `needle` starts `found` and occurs at no place before it. -/
def FirstAt (needle before found : List Char) : Prop :=
  needle <+: found ∧ ∀ rest, rest <:+ before → rest ≠ [] → ¬ needle <+: rest ++ found

theorem findSub_eq_some : findSub needle text = some found ↔
    ∃ before, text = before ++ found ∧ FirstAt needle before found := by
  induction text with
  | nil =>
    simp only [findSub, nil_eq, append_eq_nil_iff]
    constructor
    · intro h
      split at h
      · cases h
        exact ⟨[], ⟨rfl, rfl⟩, by simp_all [FirstAt]⟩
      · cases h
    · rintro ⟨before, ⟨rfl, rfl⟩, hfirst, -⟩
      simpa using hfirst
  | cons c text ih =>
    simp only [findSub, isPrefixOf_iff_prefix]
    split
    next hstart =>
      constructor
      · rintro ⟨⟩
        exact ⟨[], rfl, hstart, by simp⟩
      · rintro ⟨before, htext, hfirst⟩
        cases before with
        | nil => exact congrArg some htext
        | cons d before =>
          exact absurd (htext ▸ hstart) (hfirst.2 _ suffix_rfl (cons_ne_nil d before))
    next hstart =>
      rw [ih]
      constructor
      · rintro ⟨before, rfl, hfirst⟩
        refine ⟨c :: before, rfl, hfirst.1, ?_⟩
        intro rest hrest hne
        rcases suffix_cons_iff.mp hrest with rfl | hrest
        · exact hstart
        · exact hfirst.2 rest hrest hne
      · rintro ⟨before, htext, hfirst⟩
        cases before with
        | nil => exact absurd (htext ▸ hfirst.1) hstart
        | cons d before =>
          obtain ⟨rfl, rfl⟩ := cons.inj htext
          exact ⟨before, rfl, hfirst.1, fun rest hrest =>
            hfirst.2 rest (hrest.trans (suffix_cons _ before))⟩

theorem containsSub_eq_true : containsSub needle text = true ↔ needle <:+: text := by
  rw [containsSub]
  induction text with
  | nil => by_cases h : needle = [] <;> simp [findSub, h]
  | cons c text ih =>
    simp only [findSub, isPrefixOf_iff_prefix, infix_cons_iff, ← ih]
    split <;> simp_all

/-- A word whose first character comes once does not reach over that character. -/
theorem prefix_of_prefix_append {tail rest right : List Char} (htail : c ∉ tail)
    (hrest : rest ≠ []) (h : c :: tail <+: rest ++ c :: right) : c :: tail <+: rest := by
  rcases prefix_or_prefix_of_prefix h (prefix_append rest (c :: right)) with h' | h'
  · exact h'
  · obtain ⟨more, hmore⟩ := h'
    cases rest with
    | nil => exact absurd rfl hrest
    | cons d rest =>
      obtain ⟨rfl, rfl⟩ := cons.inj hmore
      cases more with
      | nil => simp
      | cons e more =>
        obtain ⟨last, hlast⟩ := h
        simp at hlast
        simp [hlast.1] at htail

theorem infix_append_cons (htail : c ∉ tail)
    (h : c :: tail <:+: left ++ c :: right) : c :: tail <:+: left ∨ c :: tail <:+: c :: right := by
  induction left with
  | nil => exact .inr h
  | cons d left ih =>
    rcases infix_cons_iff.mp h with h | h
    · exact .inl (prefix_of_prefix_append htail (cons_ne_nil d left) h).isInfix
    · exact (ih h).imp_left fun h => infix_cons_iff.mpr (.inr h)

theorem infix_of_append (hleft : c ∉ left)
    (h : c :: tail <:+: left ++ right) : c :: tail <:+: right := by
  induction left with
  | nil => exact h
  | cons d left ih =>
    rw [mem_cons, not_or] at hleft
    rcases infix_cons_iff.mp h with h | h
    · exact absurd (cons_prefix_cons.mp h).1 hleft.1
    · exact ih hleft.2 h

/-- `word` occurs in `text` at one place. -/
def OccursOnce (word text : List Char) : Prop :=
  ∃ before, (∃ after, text = before ++ (word ++ after)) ∧
    ∀ other after, text = other ++ (word ++ after) → other = before

theorem occursOnce_of_not_infix {tail before after : List Char} (htail : c ∉ tail)
    (hbefore : ¬ c :: tail <:+: before) (hafter : ¬ c :: tail <:+: after) :
    OccursOnce (c :: tail) (before ++ (c :: tail ++ after)) := by
  refine ⟨before, ⟨after, rfl⟩, ?_⟩
  intro other rest heq
  rcases append_eq_append_iff.mp heq with ⟨more, rfl, hmore⟩ | ⟨more, rfl, hmore⟩
  · cases more with
    | nil => exact append_nil before
    | cons d more =>
      obtain ⟨-, hlater⟩ := cons.inj hmore
      have hinfix : c :: tail <:+: tail ++ after :=
        ⟨more, rest, (append_assoc ..).trans hlater.symm⟩
      exact absurd (infix_of_append htail hinfix) hafter
  · cases more with
    | nil => exact (append_nil other).symm
    | cons d more =>
      have hprefix : c :: tail <+: (d :: more) ++ c :: (tail ++ after) := ⟨rest, hmore⟩
      have hinside := prefix_of_prefix_append htail (cons_ne_nil d more) hprefix
      exact absurd (hinside.isInfix.trans (suffix_append other _).isInfix) hbefore

theorem rsplitOnceSub_eq_none {needle text : List Char} (h : ¬ needle <:+: text) :
    rsplitOnceSub needle text = none := by
  induction text with
  | nil =>
    rw [infix_nil] at h
    exact if_neg h
  | cons c text ih =>
    rw [infix_cons_iff, not_or] at h
    rw [rsplitOnceSub, ih h.2]
    cases hstart : needle.isPrefixOf? (c :: text) with
    | none => rfl
    | some after => exact absurd ⟨after, isPrefixOf?_eq_some_iff_append_eq.mp hstart⟩ h.1

theorem rsplitOnceSub_append {c : Char} {tail after : List Char} (htail : c ∉ tail)
    (hafter : ¬ c :: tail <:+: after) (before : List Char) :
    rsplitOnceSub (c :: tail) (before ++ (c :: tail ++ after)) = some (before, after) := by
  induction before with
  | nil =>
    have hrest := rsplitOnceSub_eq_none (mt (infix_of_append htail) hafter)
    have hstart := isPrefixOf?_eq_some_iff_append_eq.mpr (Eq.refl (c :: tail ++ after))
    rw [cons_append] at hstart
    simp [rsplitOnceSub, hrest, hstart]
  | cons d before ih =>
    rw [cons_append, rsplitOnceSub, ih]

/-- The two line ends that `lines` takes off. -/
def lineEnd (crlf : Bool) : List Char := if crlf then ['\r', '\n'] else ['\n']

theorem lines_append {line : List Char} (hline : '\n' ∉ line) (hend : line.getLast? ≠ some '\r')
    (crlf : Bool) (rest : List Char) :
    lines (line ++ (lineEnd crlf ++ rest)) = line :: lines rest := by
  induction line with
  | nil => cases crlf <;> simp [lines, lineEnd]
  | cons c line ih =>
    rw [mem_cons, not_or] at hline
    cases line with
    | nil => cases crlf <;> simp_all [lines, lineEnd, Ne.symm hline.1]
    | cons d line =>
      have hd : d ≠ '\n' := fun hd => hline.2 (hd ▸ mem_cons_self)
      have hrest := ih hline.2 (by simpa using hend)
      rw [cons_append] at hrest
      simp [lines.eq_def (c :: d :: _), Ne.symm hline.1, hd, hrest]

theorem lines_flatMap {texts : List (List Char)}
    (h : ∀ line ∈ texts, '\n' ∉ line ∧ line.getLast? ≠ some '\r') (crlf : List Char → Bool)
    (rest : List Char) :
    lines (texts.flatMap (fun line => line ++ lineEnd (crlf line)) ++ rest) =
      texts ++ lines rest := by
  induction texts with
  | nil => rfl
  | cons line texts ih =>
    rw [forall_mem_cons] at h
    simp [lines_append h.1.1 h.1.2, ih h.2]

section Split

variable {p : Char → Bool} {text first second : List Char}

theorem splitOnce_eq_none : splitOnce p text = none ↔ ∀ c ∈ text, p c = false := by
  induction text with
  | nil => simp [splitOnce]
  | cons c text ih => cases hc : p c <;> simp [splitOnce, hc, ih]

theorem splitOnce_eq_some : splitOnce p text = some (first, second) ↔
    ∃ c, text = first ++ c :: second ∧ p c = true ∧ ∀ d ∈ first, p d = false := by
  induction text generalizing first second with
  | nil => simp [splitOnce]
  | cons c text ih =>
    cases hc : p c with
    | true =>
      simp only [splitOnce, hc, if_true, Option.some.injEq, Prod.mk.injEq]
      constructor
      · rintro ⟨rfl, rfl⟩
        exact ⟨c, rfl, hc, by simp⟩
      · rintro ⟨d, htext, -, hfirst⟩
        cases first with
        | nil => simpa using (cons.inj htext).2
        | cons e first =>
          obtain ⟨rfl, -⟩ := cons.inj htext
          simp [hc] at hfirst
    | false =>
      simp only [splitOnce, hc, Bool.false_eq_true, if_false, Option.map_eq_some_iff, Prod.exists,
        Prod.mk.injEq, ih]
      constructor
      · rintro ⟨rest, _, ⟨d, rfl, hd, hrest⟩, rfl, rfl⟩
        exact ⟨d, rfl, hd, by simpa [hc] using hrest⟩
      · rintro ⟨d, htext, hd, hfirst⟩
        cases first with
        | nil =>
          obtain ⟨rfl, -⟩ := cons.inj htext
          simp [hc] at hd
        | cons e first =>
          obtain ⟨rfl, rfl⟩ := cons.inj htext
          exact ⟨first, second, ⟨d, rfl, hd, (forall_mem_cons.mp hfirst).2⟩, rfl, rfl⟩

theorem rsplitOnce_eq_some : rsplitOnce p text = some (first, second) ↔
    ∃ c, text = first ++ c :: second ∧ p c = true ∧ ∀ d ∈ second, p d = false := by
  simp only [rsplitOnce, Option.map_eq_some_iff, Prod.exists, Prod.mk.injEq, splitOnce_eq_some,
    reverse_eq_iff]
  constructor
  · rintro ⟨_, _, ⟨c, htext, hc, hsecond⟩, rfl, rfl⟩
    exact ⟨c, by simpa using htext, hc, by simpa using hsecond⟩
  · rintro ⟨c, rfl, hc, hsecond⟩
    exact ⟨second.reverse, first.reverse, ⟨c, by simp, hc, by simpa using hsecond⟩, rfl, rfl⟩

theorem rsplitOnce_eq_none : rsplitOnce p text = none ↔ ∀ c ∈ text, p c = false := by
  simp [rsplitOnce, splitOnce_eq_none]

theorem rsplitOnce_append {c : Char} (hc : p c = true) (first second : List Char) :
    ∃ more last, rsplitOnce p (first ++ c :: second) = some (first ++ more, last) := by
  cases h : rsplitOnce p second with
  | none =>
    have hplain := rsplitOnce_eq_none.mp h
    exact ⟨[], second, rsplitOnce_eq_some.mpr ⟨c, by simp, hc, hplain⟩⟩
  | some parts =>
    obtain ⟨d, rfl, hd, hplain⟩ := rsplitOnce_eq_some.mp h
    exact ⟨c :: parts.1, parts.2, rsplitOnce_eq_some.mpr ⟨d, by simp, hd, hplain⟩⟩

end Split

theorem trim_eq_nil : trim text = [] ↔ ∀ c ∈ text, isWhitespace c = true := by
  simp only [trim, trimMatches, trimEndMatches, trimStartMatches,
    reverse_eq_nil_iff, dropWhile_eq_nil_iff, mem_reverse]
  rw [← dropWhile_eq_nil_iff, dropWhile_idempotent, dropWhile_eq_nil_iff]

end CarlAgent.Foundation.Text
