import CarlAgent.Foundation.Text
import Mathlib.Algebra.Group.Int.Defs

/-!
# Compact JSON texts

JSON values whose objects keep the order of their fields, and the text a
compact writer gives them: no blanks, and strings escaped only where the
grammar requires it.  A number is an integer, or a fraction that is kept as
it is written.
-/

namespace CarlAgent.Foundation

open Text List

/-- The written form of a number with a fraction or an exponent. -/
structure JsonFraction where
  text : List Char
  plain : ∀ c ∈ text, Text.isAsciiDigit c ∨ c ∈ ['-', '+', '.', 'e']
  deriving DecidableEq, Repr

inductive Json where
  | null
  | bool (value : Bool)
  | num (value : Int)
  | fraction (value : JsonFraction)
  | str (value : String)
  | arr (items : List Json)
  | obj (fields : List (String × Json))
  deriving Repr

namespace Json

def escapeChar (c : Char) : List Char :=
  if c = '"' then ['\\', '"']
  else if c = '\\' then ['\\', '\\']
  else if c = Char.ofNat 0x08 then ['\\', 'b']
  else if c = Char.ofNat 0x0c then ['\\', 'f']
  else if c = '\n' then ['\\', 'n']
  else if c = '\r' then ['\\', 'r']
  else if c = '\t' then ['\\', 't']
  else if c.toNat < 0x20 then ['\\', 'u'] ++ Text.hexadecimal 4 c.toNat
  else [c]

def renderString (value : String) : List Char :=
  '"' :: value.toList.flatMap escapeChar ++ ['"']

def renderInt : Int → List Char
  | .ofNat n => Text.decimal n
  | .negSucc n => '-' :: Text.decimal (n + 1)

mutual

def render : Json → List Char
  | null => ['n', 'u', 'l', 'l']
  | bool true => ['t', 'r', 'u', 'e']
  | bool false => ['f', 'a', 'l', 's', 'e']
  | num value => renderInt value
  | fraction value => value.text
  | str value => renderString value
  | arr items => '[' :: renderItems items ++ [']']
  | obj fields => '\x7b' :: renderFields fields ++ ['\x7d']

def renderItems : List Json → List Char
  | [] => []
  | [item] => render item
  | item :: rest => render item ++ ',' :: renderItems rest

def renderFields : List (String × Json) → List Char
  | [] => []
  | [(name, value)] => renderString name ++ ':' :: render value
  | (name, value) :: rest =>
    renderString name ++ ':' :: render value ++ ',' :: renderFields rest

end

def size (json : Json) : Nat :=
  Text.byteLen json.render

def nat (n : Nat) : Json :=
  num n

def option {α : Type} (write : α → Json) : Option α → Json
  | none => null
  | some a => write a

def list {α : Type} (write : α → Json) (items : List α) : Json :=
  arr (items.map write)

def get (name : String) : Json → Option Json
  | obj fields => (fields.find? fun field => field.1 == name).map Prod.snd
  | _ => none

def asStr : Json → Option String
  | str value => some value
  | _ => none

def asI64 : Json → Option Int
  | num n => if -2 ^ 63 ≤ n ∧ n < 2 ^ 63 then some n else none
  | _ => none

def asArray : Json → Option (List Json)
  | arr items => some items
  | _ => none

theorem byteLen_escapeChar (c : Char) : byteLen (escapeChar c) ≤ 6 := by
  have hsmall : ∀ n < 0x20, byteLen (['\\', 'u'] ++ hexadecimal 4 n) ≤ 6 := by
    decide
  have hsize := c.utf8Size_le_four
  unfold escapeChar
  repeat' split
  all_goals first
    | decide
    | exact hsmall _ (by assumption)
    | simpa [byteLen] using hsize.trans (by omega)

theorem size_str_le (value : String) : (str value).size ≤ 2 + 6 * value.toList.length := by
  have hbody := byteLen_flatMap_le byteLen_escapeChar value.toList
  have hquote : byteLen ['"'] = 1 := by decide
  simp only [size, render, renderString, cons_append, byteLen_cons, byteLen_append, hquote]
  have : ('"' : Char).utf8Size = 1 := by decide
  omega

theorem size_nat (n : Nat) : (nat n).size = (decimal n).length :=
  byteLen_decimal n

theorem size_nat_le {n digits : Nat} (hpos : 0 < digits)
    (h : n < 10 ^ digits) : (nat n).size ≤ digits := by
  rw [size_nat]
  exact (Nat.length_toDigits_le_iff (by omega) hpos).mpr h

theorem byteLen_renderItems (items : List Json) :
    byteLen (renderItems items) = (items.map fun item => item.size + 1).sum - 1 := by
  induction items with
  | nil => rfl
  | cons item rest ih =>
    cases rest with
    | nil => simp [renderItems, size]
    | cons second rest =>
      have hcomma : (',' : Char).utf8Size = 1 := by decide
      rw [renderItems, byteLen_append, byteLen_cons, ih, hcomma]
      · simp only [map_cons, sum_cons, size]
        omega
      · simp

theorem size_arr (items : List Json) :
    (arr items).size = 2 + ((items.map fun item => item.size + 1).sum - 1) := by
  have hopen : ('[' : Char).utf8Size = 1 := by decide
  have hclose : byteLen [']'] = 1 := by decide
  rw [size, render, cons_append, byteLen_cons, byteLen_append, byteLen_renderItems, hopen, hclose]
  omega

theorem byteLen_renderFields (fields : List (String × Json)) :
    byteLen (renderFields fields) = (fields.map fun field =>
      (str field.1).size + field.2.size + 2).sum - 1 := by
  have hcolon : (':' : Char).utf8Size = 1 := by decide
  have hname : ∀ name, byteLen (renderString name) = (str name).size := by
    intro name
    rw [size, render]
  induction fields with
  | nil => rfl
  | cons field rest ih =>
    obtain ⟨name, value⟩ := field
    cases rest with
    | nil =>
      rw [renderFields, byteLen_append, byteLen_cons, hname, hcolon]
      simp only [map_cons, map_nil, sum_cons, sum_nil, size]
      omega
    | cons second rest =>
      have hcomma : (',' : Char).utf8Size = 1 := by decide
      rw [renderFields, append_assoc, byteLen_append, cons_append, byteLen_cons,
        byteLen_append, byteLen_cons, ih, hname, hcolon, hcomma]
      · simp only [map_cons, sum_cons, size]
        omega
      · simp

theorem size_obj (fields : List (String × Json)) :
    (obj fields).size = 2 + ((fields.map fun field =>
      (str field.1).size + field.2.size + 2).sum - 1) := by
  have hopen : ('\x7b' : Char).utf8Size = 1 := by decide
  have hclose : byteLen ['\x7d'] = 1 := by decide
  rw [size, render, cons_append, byteLen_cons, byteLen_append, byteLen_renderFields, hopen, hclose]
  omega

theorem size_list {α : Type} (write : α → Json) (items : List α) :
    (list write items).size = 2 + ((items.map fun item => (write item).size + 1).sum - 1) := by
  rw [list, size_arr, map_map]
  rfl

end Json

/-! ## Parts of a JSON text -/

namespace Text

theorem lines_eq_singleton {text : List Char} (hne : text ≠ [])
    (h : '\n' ∉ text) : lines text = [text] := by
  induction text with
  | nil => exact absurd rfl hne
  | cons c rest ih =>
    rw [mem_cons, not_or] at h
    cases rest with
    | nil => simp [lines, Ne.symm h.1]
    | cons d rest =>
      have hd : d ≠ '\n' := by
        intro hd
        exact h.2 (hd ▸ mem_cons_self)
      have hrest := ih (by simp) h.2
      simp [lines.eq_def (c :: d :: rest), Ne.symm h.1, hd, hrest]

theorem byteLen_le_of_infix {part text : List Char} (h : part <:+: text) :
    byteLen part ≤ byteLen text := by
  obtain ⟨before, after, rfl⟩ := h
  rw [byteLen_append, byteLen_append]
  omega

end Text

namespace Json

theorem render_infix_renderItems {item : Json} {items : List Json}
    (h : item ∈ items) : item.render <:+: renderItems items := by
  induction items with
  | nil => cases h
  | cons first rest ih =>
    cases rest with
    | nil =>
      rw [mem_singleton.mp h]
      exact infix_rfl
    | cons second rest =>
      rw [renderItems]
      · rcases mem_cons.mp h with rfl | h
        · exact (prefix_append _ _).isInfix
        · exact (ih h).trans ((suffix_cons _ _).trans (suffix_append _ _)).isInfix
      · simp

variable {fields : List (String × Json)} {value : Json}

theorem render_infix_renderFields {name : String}
    (h : (name, value) ∈ fields) : value.render <:+: renderFields fields := by
  induction fields with
  | nil => cases h
  | cons first rest ih =>
    obtain ⟨firstName, firstValue⟩ := first
    have hvalue : ∀ after, firstValue.render <:+:
        renderString firstName ++ ':' :: firstValue.render ++ after :=
      fun after => ⟨renderString firstName ++ [':'], after, by simp⟩
    cases rest with
    | nil =>
      cases mem_singleton.mp h
      rw [renderFields]
      simpa using hvalue []
    | cons second rest =>
      rw [renderFields]
      · rcases mem_cons.mp h with heq | h
        · cases heq
          exact hvalue _
        · exact (ih h).trans ((suffix_cons _ _).trans (suffix_append _ _)).isInfix
      · simp

theorem infix_enclosed {text body : List Char} {first last : Char}
    (h : text <:+: body) : text <:+: first :: body ++ [last] :=
  h.trans ⟨[first], [last], rfl⟩

theorem render_infix_obj (name : String)
    (h : (name, value) ∈ fields) : value.render <:+: (obj fields).render := by
  rw [render.eq_def (obj fields)]
  exact infix_enclosed (render_infix_renderFields h)

theorem render_infix_list {α : Type} {write : α → Json} {items : List α} {a : α} (h : a ∈ items) :
    (write a).render <:+: (list write items).render := by
  rw [list, render.eq_def (arr _)]
  exact infix_enclosed (render_infix_renderItems (mem_map_of_mem h))

theorem escape_infix_str (value : String) :
    value.toList.flatMap escapeChar <:+: (str value).render := by
  rw [render, renderString]
  exact infix_enclosed infix_rfl

theorem utf8Size_le_escapeChar (c : Char) : c.utf8Size ≤ byteLen (escapeChar c) := by
  have hsmall : ∀ n < 0x20, (Char.ofNat n).utf8Size ≤ byteLen (['\\', 'u'] ++ hexadecimal 4 n) := by
    decide
  unfold escapeChar
  repeat' split
  all_goals first
    | (subst_vars; decide)
    | (have h := hsmall c.toNat (by assumption)
       rwa [Char.ofNat_toNat] at h)
    | simp [byteLen]

theorem byteLen_le_escape (text : List Char) :
    byteLen text ≤ byteLen (text.flatMap escapeChar) := by
  induction text with
  | nil => exact Nat.le_refl _
  | cons c text ih =>
    have hc := utf8Size_le_escapeChar c
    rw [flatMap_cons, byteLen_cons, byteLen_append]
    omega

theorem newline_notMem_escapeChar (c : Char) : '\n' ∉ escapeChar c := by
  have hsmall : ∀ n < 0x20, '\n' ∉ ['\\', 'u'] ++ hexadecimal 4 n := by
    decide
  unfold escapeChar
  repeat' split
  all_goals first
    | decide
    | exact hsmall _ (by assumption)
    | simp_all [eq_comm]

theorem newline_notMem_renderString (value : String) : '\n' ∉ renderString value := by
  simp only [renderString, cons_append, mem_cons, mem_append,
    mem_flatMap, not_mem_nil, or_false, not_or, not_exists, not_and]
  refine ⟨by decide, ?_, by decide⟩
  intro c _
  exact newline_notMem_escapeChar c

theorem newline_notMem_decimal (n : Nat) : '\n' ∉ decimal n := by
  intro h
  have hdigit := Nat.isDigit_of_mem_toDigits (by omega) (by omega) h
  cases hdigit

theorem newline_notMem_renderInt (value : Int) : '\n' ∉ renderInt value := by
  cases value with
  | ofNat n => exact newline_notMem_decimal n
  | negSucc n =>
    rw [renderInt, mem_cons, not_or]
    exact ⟨by decide, newline_notMem_decimal (n + 1)⟩

mutual

theorem newline_notMem_render (json : Json) : '\n' ∉ json.render := by
  cases json with
  | null =>
    rw [render]
    decide
  | bool value => cases value <;> rw [render] <;> decide
  | num value =>
    rw [render]
    exact newline_notMem_renderInt value
  | fraction value =>
    rw [render]
    intro hmem
    exact absurd (value.plain _ hmem) (by decide)
  | str value =>
    rw [render]
    exact newline_notMem_renderString value
  | arr items =>
    have hitems := newline_notMem_renderItems items
    rw [render]
    simpa using hitems
  | obj fields =>
    have hfields := newline_notMem_renderFields fields
    rw [render]
    simpa using hfields

theorem newline_notMem_renderItems (items : List Json) : '\n' ∉ renderItems items := by
  match items with
  | [] => simp [renderItems]
  | [item] =>
    rw [renderItems]
    exact newline_notMem_render item
  | item :: second :: rest =>
    have hitem := newline_notMem_render item
    have hrest := newline_notMem_renderItems (second :: rest)
    rw [renderItems]
    · simp [hitem, hrest]
    · simp

theorem newline_notMem_renderFields (fields : List (String × Json)) :
    '\n' ∉ renderFields fields := by
  match fields with
  | [] => simp [renderFields]
  | [(name, value)] =>
    have hname := newline_notMem_renderString name
    have hvalue := newline_notMem_render value
    rw [renderFields]
    simp [hname, hvalue]
  | (name, value) :: second :: rest =>
    have hname := newline_notMem_renderString name
    have hvalue := newline_notMem_render value
    have hrest := newline_notMem_renderFields (second :: rest)
    rw [renderFields]
    · simp [hname, hvalue, hrest]
    · simp

end

end Json

end CarlAgent.Foundation
