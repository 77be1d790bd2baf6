import CarlAgent.Storage.Projection

/-!
# Values of the frontends

Bounded texts that name sessions, channels and requests of a frontend, the
actors behind them, and times.  A time column holds a text; what is assumed of
that text is that reading it back either fails or gives the time, and how the
store's comparison orders two of them.
-/

namespace CarlAgent.Access

open Foundation CarlAgent.Task Storage

def maxFrontendValueBytes : Nat := 128

inductive FrontendValueKind where
  | externalSessionId
  | channelId
  | providerRequestId
  deriving DecidableEq

def isFrontendValue (value : String) : Bool :=
  !value.isEmpty && decide (value.utf8ByteSize ≤ maxFrontendValueBytes) &&
    !value.toList.contains '\x00' && !Text.hasControl value

structure FrontendValue (kind : FrontendValueKind) where
  text : String
  valid : isFrontendValue text = true
  deriving DecidableEq

abbrev ExternalSessionId := FrontendValue .externalSessionId
abbrev ChannelId := FrontendValue .channelId
abbrev ProviderRequestId := FrontendValue .providerRequestId

def maxActorIdBytes : Nat := 128

def isActorId (value : String) : Bool :=
  !value.isEmpty && decide (value.utf8ByteSize ≤ maxActorIdBytes) &&
    value.toList.all fun c =>
      Text.isAsciiAlphanumeric c || c == '-' || c == '_' || c == '.' || c == ':'

structure ActorId where
  text : String
  valid : isActorId text = true
  deriving DecidableEq

inductive Frontend where
  | acp
  | buzz
  | tui
  deriving DecidableEq, Repr

abbrev Timestamp := Int

structure TimestampText where
  readable : Timestamp → Bool
  /-- What reading any other text reports. -/
  unreadable : CarlError
  /-- The text of the first time is before or equal to that of the second. -/
  le : Timestamp → Timestamp → Bool

namespace TimestampText

variable (texts : TimestampText)

/-- `a > b` on the columns' texts. -/
def after (a b : Timestamp) : Bool := !texts.le a b

def parseTimestamp (time : Timestamp) : Except CarlError Timestamp :=
  if texts.readable time then .ok time else .error texts.unreadable

def parseOptional (time : Option Timestamp) : Except CarlError (Option Timestamp) :=
  match time with
  | none => .ok none
  | some time => (texts.parseTimestamp time).map some

variable {texts} {time parsed : Timestamp}

@[simp] theorem parseTimestamp_eq_ok : texts.parseTimestamp time = .ok parsed ↔
      texts.readable time = true ∧ parsed = time := by
  by_cases h : texts.readable time = true
  · simp [parseTimestamp, h, eq_comm]
  · simp [parseTimestamp, h]

theorem parseOptional_eq_ok {stored parsed : Option Timestamp}
    (h : texts.parseOptional stored = .ok parsed) : parsed = stored := by
  cases stored with
  | none =>
    simp only [parseOptional, Except.ok.injEq] at h
    exact h.symm
  | some time =>
    simp only [parseOptional, map_eq_ok_iff, parseTimestamp_eq_ok] at h
    obtain ⟨parsed, ⟨-, rfl⟩, rfl⟩ := h
    rfl

/-- Texts of the years that have four digits: all of them can be read, and
they are in the order of the times. -/
def plain : TimestampText where
  readable := fun _ => true
  unreadable := .storage "input contains invalid characters"
  le := fun a b => decide (a ≤ b)

end TimestampText

end CarlAgent.Access
