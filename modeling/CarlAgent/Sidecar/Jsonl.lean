import CarlAgent.Foundation.Json
import CarlAgent.Foundation.Lines

/-!
# Bounded lines of JSON

`read_bounded_line` takes one line out of a buffered reader, and one turn of
`read_stdout` makes a message of it.  Both depend on the bytes of the stream
alone, not on the fills that bring them.  The parser of a JSON text is a
parameter.
-/

namespace CarlAgent.Sidecar

open Foundation Stream List

inductive LineReadError where
  | failedIo
  | missingTerminator
  | tooLong
  deriving DecidableEq, Repr

abbrev Bytes := List UInt8

def newline : UInt8 := 0x0a
def carriageReturn : UInt8 := 0x0d

def withoutTerminator (line : Bytes) : Bytes :=
  if line.dropLast.getLast? = some carriageReturn then line.dropLast.dropLast
  else line.dropLast

def readBoundedLine (maximumBytes : Nat) (line : Bytes) : List (Fill UInt8) →
      Except LineReadError (Option Bytes × List (Fill UInt8))
  | [] => if line.isEmpty then .ok (none, []) else .error .missingTerminator
  | .failed :: _ => .error .failedIo
  | .items [] :: rest =>
    if line.isEmpty then .ok (none, .items [] :: rest)
    else .error .missingTerminator
  | .items (byte :: available) :: rest =>
    match (byte :: available).idxOf? newline with
    | some position =>
      if maximumBytes < line.length + (position + 1) then .error .tooLong
      else
        .ok (some (withoutTerminator (line ++ (byte :: available).take (position + 1))),
          Stream.remaining ((byte :: available).drop (position + 1)) rest)
    | none =>
      if maximumBytes < line.length + (byte :: available).length then
        .error .tooLong
      else readBoundedLine maximumBytes (line ++ byte :: available) rest

def lineOf (maximumBytes : Nat) (stream : Stream UInt8) :
    Except LineReadError (Option Bytes × Stream UInt8) :=
  match stream.items.idxOf? newline with
  | some position =>
    if maximumBytes < position + 1 then .error .tooLong
    else
      .ok (some (withoutTerminator (stream.items.take (position + 1))),
        { stream with items := stream.items.drop (position + 1) })
  | none =>
    if maximumBytes < stream.items.length then .error .tooLong
    else if stream.failed then .error .failedIo
    else if stream.items.isEmpty then .ok (none, stream)
    else .error .missingTerminator

section Lines

variable {maximumBytes : Nat} {line : Bytes}

theorem lineOf_terminated {before after : Bytes} {failed : Bool} (hbefore : newline ∉ before) :
    lineOf maximumBytes ⟨before ++ newline :: after, failed⟩ =
      if maximumBytes < before.length + 1 then .error .tooLong
      else
        .ok (some (withoutTerminator (before ++ [newline])), ⟨after, failed⟩) := by
  simp only [lineOf, idxOf?_split hbefore]
  have hsplit : before ++ newline :: after = before ++ [newline] ++ after := by
    simp
  have hlength : before.length + 1 = (before ++ [newline]).length := by simp
  rw [hsplit, hlength, take_left, drop_left]

theorem lineOf_open {stream : Stream UInt8} (hopen : newline ∉ stream.items) :
    lineOf maximumBytes stream =
      if maximumBytes < stream.items.length then .error .tooLong
      else if stream.failed then .error .failedIo
      else if stream.items.isEmpty then .ok (none, stream)
      else .error .missingTerminator := by
  rw [lineOf, idxOf?_eq_none_iff.mpr hopen]

/-- Enough bytes without a newline settle the line, whatever follows. -/
theorem lineOf_overlong {stream : Stream UInt8} (hopen : newline ∉ line)
    (hlong : maximumBytes < line.length) :
    lineOf maximumBytes (stream.prepend line) = .error .tooLong := by
  cases hposition : stream.items.idxOf? newline with
  | some position =>
    obtain ⟨before, after, hitems, hbefore, -⟩ := idxOf?_eq_some_split hposition
    have hprepend : stream.prepend line =
        ⟨(line ++ before) ++ newline :: after, stream.failed⟩ := by
      simp [prepend, hitems]
    have hboth : newline ∉ line ++ before := by simp [hopen, hbefore]
    rw [hprepend, lineOf_terminated hboth, if_pos]
    rw [length_append]
    omega
  | none =>
    have hboth : newline ∉ (stream.prepend line).items := by
      simpa [prepend, hopen] using idxOf?_eq_none_iff.mp hposition
    rw [lineOf_open hboth, if_pos]
    simp only [prepend, length_append]
    omega

theorem lineOf_end (hopen : newline ∉ line) (hlength : line.length ≤ maximumBytes) :
    lineOf maximumBytes ⟨line, false⟩ =
      if line.isEmpty then .ok (none, ⟨[], false⟩)
      else .error .missingTerminator := by
  rw [lineOf_open hopen, if_neg (not_lt.mpr hlength)]
  cases line <;> rfl

theorem readBoundedLine_eq (hopen : newline ∉ line) (hlength : line.length ≤ maximumBytes)
    (fills : List (Fill UInt8)) :
    (readBoundedLine maximumBytes line fills).map (fun read => (read.1, ofFills read.2)) =
      lineOf maximumBytes ((ofFills fills).prepend line) := by
  -- The induction follows the fills; the bytes taken so far hold no newline.
  induction fills generalizing line with
  | nil =>
    simp only [ofFills, prepend, append_nil]
    rw [lineOf_end hopen hlength, readBoundedLine]
    split <;> rfl
  | cons fill rest ih =>
    rcases fill with (_ | ⟨byte, available⟩) | _
    case failed =>
        simp only [ofFills, prepend, append_nil]
        rw [lineOf_open hopen, if_neg (not_lt.mpr hlength)]
        rfl
    case items.nil =>
        simp only [ofFills, prepend, append_nil]
        rw [lineOf_end hopen hlength, readBoundedLine]
        split <;> rfl
    case items.cons =>
        simp only [readBoundedLine, ofFills, prepend_prepend]
        cases hposition : (byte :: available).idxOf? newline with
        | some position =>
          obtain ⟨before, after, hitems, hbefore, rfl⟩ := idxOf?_eq_some_split hposition
          have hboth : newline ∉ line ++ before := by simp [hopen, hbefore]
          have hprepend : (ofFills rest).prepend (line ++ byte :: available) =
                ⟨(line ++ before) ++ newline :: (after ++ (ofFills rest).items),
                  (ofFills rest).failed⟩ := by
            simp [prepend, hitems]
          have hsplit : byte :: available = before ++ [newline] ++ after := by
            simp [hitems]
          have hcount : before.length + 1 = (before ++ [newline]).length := by
            simp
          rw [hprepend, lineOf_terminated hboth]
          simp only [length_append, Nat.add_assoc]
          split
          · rfl
          · rw [hsplit, hcount, take_left, drop_left]
            simp only [Except.map, ofFills_remaining, prepend, append_assoc]
        | none =>
          have hfill : newline ∉ byte :: available := idxOf?_eq_none_iff.mp hposition
          have hboth : newline ∉ line ++ byte :: available := by
            simpa [hopen] using hfill
          by_cases hlong : maximumBytes < line.length + (byte :: available).length
          · rw [if_pos hlong, lineOf_overlong hboth (by simpa using hlong)]
            rfl
          · rw [if_neg hlong]
            apply ih hboth
            rw [length_append]
            omega

theorem readBoundedLine_nil (maximumBytes : Nat) (fills : List (Fill UInt8)) :
    (readBoundedLine maximumBytes [] fills).map (fun read => (read.1, ofFills read.2)) =
      lineOf maximumBytes (ofFills fills) := by
  rw [readBoundedLine_eq (by simp) (by simp), prepend_nil]

def readLines (maximumBytes : Nat) :
    Nat → List (Fill UInt8) → List (Except LineReadError (Option Bytes))
  | 0, _ => []
  | count + 1, fills =>
    match readBoundedLine maximumBytes [] fills with
    | .ok (some line, rest) =>
      .ok (some line) :: readLines maximumBytes count rest
    | .ok (none, _) => [.ok none]
    | .error error => [.error error]

theorem readLines_congr {fills others : List (Fill UInt8)}
    (h : ofFills fills = ofFills others) (count : Nat) :
    readLines maximumBytes count fills =
      readLines maximumBytes count others := by
  induction count generalizing fills others with
  | zero => rfl
  | succ count ih =>
    have hfills := readBoundedLine_nil maximumBytes fills
    rw [h, ← readBoundedLine_nil maximumBytes others] at hfills
    simp only [readLines]
    cases hread : readBoundedLine maximumBytes [] fills with
    | error error =>
      cases hother : readBoundedLine maximumBytes [] others with
      | error other => simp_all [Except.map]
      | ok other => simp [hread, hother, Except.map] at hfills
    | ok read =>
      cases hother : readBoundedLine maximumBytes [] others with
      | error other => simp [hread, hother, Except.map] at hfills
      | ok other =>
        obtain ⟨found, rest⟩ := read
        obtain ⟨otherFound, otherRest⟩ := other
        simp only [hread, hother, Except.map, Except.ok.injEq, Prod.mk.injEq] at hfills
        obtain ⟨rfl, hrest⟩ := hfills
        cases found with
        | none => rfl
        | some line => simp only [ih hrest]

end Lines

/-! ## Messages -/

inductive StdoutMessage where
  | event (value : Json)
  | eof
  | protocolFailed

def lineEvent (decode : Bytes → Option Json) (line : Bytes) : Option Json :=
  match decode line with
  | some (.obj fields) => some (.obj fields)
  | _ => none

/-- One turn of `read_stdout`: the message it sends, and the reader it goes on
with if it goes on. -/
def readStdout (decode : Bytes → Option Json) (maximumLineBytes : Nat) (fills : List (Fill UInt8)) :
    StdoutMessage × Option (List (Fill UInt8)) :=
  match readBoundedLine maximumLineBytes [] fills with
  | .ok (some line, rest) =>
    match lineEvent decode line with
    | some event => (.event event, some rest)
    | none => (.protocolFailed, none)
  | .ok (none, _) => (.eof, none)
  | .error _ => (.protocolFailed, none)

section Objects

variable (decode : Bytes → Option Json) (maximumLineBytes : Nat)

/-- The object of a line without its newline, if the line with it is within
the bound. -/
def lineObject (line : Bytes) : Option Json :=
  if line.length + 1 ≤ maximumLineBytes then
    lineEvent decode (withoutTerminator (line ++ [newline]))
  else none

/-- The objects of all lines of a stream, if all of it is read and every line
is a terminated object within the bound. -/
def streamObjects (stream : Stream UInt8) : Option (List Json) :=
  if stream.failed then none
  else
    (terminated newline stream.items).bind (·.mapM (lineObject decode maximumLineBytes))

/-- The objects a list of messages brings, when `rest` come after it. -/
def objectsAhead (rest : Option (List Json)) : List StdoutMessage → Option (List Json)
  | [] => rest
  | .event value :: messages => (objectsAhead rest messages).map (value :: ·)
  | .eof :: _ => some []
  | .protocolFailed :: _ => none

variable {decode maximumLineBytes}

theorem streamObjects_terminated {before after : Bytes} {failed : Bool}
    (hbefore : newline ∉ before) :
    streamObjects decode maximumLineBytes ⟨before ++ newline :: after, failed⟩ =
      (lineObject decode maximumLineBytes before).bind fun value =>
        (streamObjects decode maximumLineBytes ⟨after, failed⟩).map (value :: ·) := by
  simp only [streamObjects, terminated_piece hbefore]
  cases failed with
  | true => simp
  | false =>
    cases terminated newline after with
    | none => simp
    | some pieces =>
      cases hline : lineObject decode maximumLineBytes before with
      | none => simp [hline]
      | some value =>
        change mapM _ (before :: pieces) = Option.map (value :: ·) (mapM _ pieces)
        rw [mapM_cons, hline, Option.map_eq_bind]
        rfl

theorem streamObjects_open {items : Bytes} {failed : Bool} (hopen : newline ∉ items) :
    streamObjects decode maximumLineBytes ⟨items, failed⟩ =
      if failed then none else if items.isEmpty then some [] else none := by
  cases items with
  | nil => rfl
  | cons byte items =>
    rw [streamObjects, terminated_open hopen (by simp)]
    rfl

theorem streamObjects_lineOf (stream : Stream UInt8) :
    streamObjects decode maximumLineBytes stream =
      match lineOf maximumLineBytes stream with
      | .ok (some line, rest) =>
        (lineEvent decode line).bind fun value =>
          (streamObjects decode maximumLineBytes rest).map (value :: ·)
      | .ok (none, _) => some []
      | .error _ => none := by
  obtain ⟨items, failed⟩ := stream
  cases hposition : items.idxOf? newline with
  | some position =>
    obtain ⟨before, after, rfl, hbefore, -⟩ := idxOf?_eq_some_split hposition
    rw [lineOf_terminated hbefore, streamObjects_terminated hbefore]
    by_cases hlong : maximumLineBytes < before.length + 1
    · rw [if_pos hlong, lineObject, if_neg (not_le.mpr hlong)]
      rfl
    · rw [if_neg hlong, lineObject, if_pos (not_lt.mp hlong)]
  | none =>
    have hopen : newline ∉ items := idxOf?_eq_none_iff.mp hposition
    rw [lineOf_open hopen, streamObjects_open hopen]
    by_cases hlong : maximumLineBytes < items.length
    · rw [if_pos hlong]
      cases items with
      | nil => simp at hlong
      | cons byte items => simp
    · rw [if_neg hlong]
      cases failed <;> cases items <;> rfl

/-- A turn of the reader neither loses an object nor makes one up. -/
theorem objectsAhead_readStdout (fills : List (Fill UInt8)) :
    objectsAhead ((readStdout decode maximumLineBytes fills).2.bind fun rest =>
          streamObjects decode maximumLineBytes (ofFills rest))
        [(readStdout decode maximumLineBytes fills).1] =
      streamObjects decode maximumLineBytes (ofFills fills) := by
  rw [streamObjects_lineOf, ← readBoundedLine_nil, readStdout]
  cases readBoundedLine maximumLineBytes [] fills with
  | error error => rfl
  | ok read =>
    obtain ⟨found, rest⟩ := read
    cases found with
    | none => rfl
    | some line =>
      simp only [Except.map]
      cases lineEvent decode line <;> rfl

end Objects

end CarlAgent.Sidecar
