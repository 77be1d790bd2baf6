import CarlAgent.Foundation.Check
import CarlAgent.Foundation.Text

/-!
# The secret filter

`inspect` refuses texts that hold secret material with high confidence.  The
inputs are texts, so the rule for bytes that are not UTF-8 has no case here;
the byte scans of the source look for ASCII bytes only and read the same on
characters.
-/

namespace CarlAgent.Security

open Foundation Text List

def maxScanBytes : Nat := 1024 * 1024
def minAssignedSecretBytes : Nat := 12

inductive SecretRule where
  | privateKey
  | providerToken
  | credentialAssignment
  | connectionString
  | inputLimit
  deriving DecidableEq, Repr

variable (input : List Char)

def containsPrivateKey : Bool :=
  (lines input).any fun line =>
    let line := trim line
    startsWith "-----BEGIN ".toList line &&
      endsWith " PRIVATE KEY-----".toList line &&
      decide (byteLen line ≤ 96)

def tokenByte (c : Char) : Bool :=
  isAsciiAlphanumeric c || c == '-' || c == '_'

def containsPrefixedToken (start : String) (minimumTotal : Nat) : Bool :=
  input.tails.any fun rest =>
    startsWith start.toList rest && decide (minimumTotal ≤ (rest.takeWhile tokenByte).length)

def containsAwsAccessKey : Bool :=
  input.tails.any fun rest =>
    let candidate := rest.take 20
    decide (candidate.length = 20) &&
      startsWith "AKIA".toList candidate &&
      (candidate.drop 4).all fun c =>
        isAsciiUppercase c || isAsciiDigit c

def containsProviderToken : Bool :=
  containsPrefixedToken input "sk-" 20 ||
    containsPrefixedToken input "ghp_" 24 ||
    containsPrefixedToken input "github_pat_" 24 ||
    containsPrefixedToken input "xoxb-" 24 ||
    containsPrefixedToken input "xoxa-" 24 ||
    containsPrefixedToken input "xoxp-" 24 ||
    containsPrefixedToken input "xoxr-" 24 ||
    containsPrefixedToken input "xoxs-" 24 ||
    containsAwsAccessKey input

def connectionSchemes : List String :=
  ["postgres://", "postgresql://", "mysql://", "mongodb://", "redis://"]

variable (line : List Char)

/-- The text after the first occurrence of `scheme`, in any case. -/
def afterScheme (scheme : String) : Option (List Char) :=
  let lowered := line.map toAsciiLowercase
  (findSub scheme.toList lowered).map fun found =>
    line.drop (lowered.length - found.length + scheme.length)

def hasCredentials (rest : List Char) : Bool :=
  let authority := rest.takeWhile fun c => !(c == '/' || c == '?' || c == '#')
  match rsplitOnce (· == '@') authority with
  | none => false
  | some (credentials, _) =>
    match splitOnce (· == ':') credentials with
    | none => false
    | some (user, password) => !user.isEmpty && !password.isEmpty

def containsCredentialedConnection : Bool :=
  connectionSchemes.any fun scheme =>
    match afterScheme line scheme with
    | none => false
    | some rest => hasCredentials rest

def splitAssignment : Option (List Char × List Char) :=
  splitOnce (fun c => c == '=' || c == ':') line

def isQuote (c : Char) : Bool :=
  c == '"' || c == '\''

def quotedValue (value : List Char) : Option (List Char) :=
  match value with
  | first :: rest =>
    if isQuote first && rest.getLast? == some first then some rest.dropLast
    else none
  | [] => none

def placeholders : List String :=
  ["example", "placeholder", "changeme", "change_me", "replace_me"]

def placeholderStarts : List String :=
  ["$\x7b", "$env:", "env(", "process.env."]

def isPlaceholder (value : List Char) : Bool :=
  let lowered := (trim value).map toAsciiLowercase
  lowered.isEmpty ||
    placeholders.any (fun text => text.toList == lowered) ||
    placeholderStarts.any fun text => startsWith text.toList lowered

def sensitiveKeys : List String :=
  ["api_key", "apikey", "token", "secret", "password", "cookie"]

def isSensitiveKey (key : List Char) : Bool :=
  let trimmed := trimMatches (fun c => isQuote c || c == '\x7b' || c == '\x7d' || c == ',')
    (trim key)
  let lowered := trimmed.map toAsciiLowercase
  let normalized := lowered.map fun c => if c == '-' then '_' else c
  sensitiveKeys.any fun needle => containsSub needle.toList normalized

def containsSecretAssignment : Bool :=
  match splitAssignment line with
  | none => false
  | some (key, value) =>
    if isSensitiveKey key then
      let value := trim (trimEndMatches
        (fun c => c == ',' || c == '\x7d' || c == ';') (trim value))
      match quotedValue value with
      | none => false
      | some value =>
        decide (minAssignedSecretBytes ≤ byteLen value) && !isPlaceholder value
    else false

def inspectLine : Except SecretRule Unit := do
  rejectIf (containsCredentialedConnection line) .connectionString
  rejectIf (containsSecretAssignment line) .credentialAssignment

def inspect : Except SecretRule Unit := do
  rejectIf (byteLen input > maxScanBytes) .inputLimit
  rejectIf (containsPrivateKey input) .privateKey
  rejectIf (containsProviderToken input) .providerToken
  (lines input).forM inspectLine

inductive ByteFinding where
  | nonUtf8
  | rule (rule : SecretRule)
  deriving DecidableEq, Repr

def inspectBytes (input : List UInt8) : Except ByteFinding Unit := do
  rejectIf (input.length > maxScanBytes) (.rule .inputLimit)
  let text ← requireSome (String.fromUTF8? ⟨input.toArray⟩) .nonUtf8
  (inspect text.toList).mapError .rule

/-! ## Connections -/

section Connections

variable {line rest : List Char} {scheme : String}

/-- The text starts with a user and a password before a host. -/
def Credentials (rest : List Char) : Prop :=
  ∃ user password host, rest = user ++ ':' :: (password ++ '@' :: host) ∧ user ≠ [] ∧
    password ≠ [] ∧ ':' ∉ user ∧ ∀ c ∈ user ++ password, c ≠ '/' ∧ c ≠ '?' ∧ c ≠ '#'

/-- The first place of the scheme in the line is followed by credentials. -/
def FirstCredentials (line : List Char) (scheme : String) : Prop :=
  ∃ before found rest, line = before ++ (found ++ rest) ∧ found.length = scheme.length ∧
    FirstAt scheme.toList (before.map toAsciiLowercase)
      ((found ++ rest).map toAsciiLowercase) ∧ Credentials rest

theorem afterScheme_eq_some : afterScheme line scheme = some rest ↔
    ∃ before found, line = before ++ (found ++ rest) ∧ found.length = scheme.length ∧
      FirstAt scheme.toList (before.map toAsciiLowercase)
        ((found ++ rest).map toAsciiLowercase) := by
  simp only [afterScheme, Option.map_eq_some_iff, findSub_eq_some, map_eq_append_iff]
  constructor
  · rintro ⟨_, ⟨_, ⟨before, tail, rfl, rfl, rfl⟩, hfirst⟩, rfl⟩
    have hlength : scheme.length ≤ tail.length := by
      simpa [String.length_toList] using hfirst.1.length_le
    refine ⟨before, tail.take scheme.length, ?_, by simpa using hlength, ?_⟩
    · simp
    · simpa using hfirst
  · rintro ⟨before, found, rfl, hlength, hfirst⟩
    refine ⟨_, ⟨_, ⟨before, found ++ rest, rfl, rfl, rfl⟩, hfirst⟩, ?_⟩
    simp [← hlength]

/-- The authority goes on up to one of these. -/
abbrev inAuthority (c : Char) : Bool := !(c == '/' || c == '?' || c == '#')

theorem hasCredentials_eq_true : hasCredentials rest = true ↔ Credentials rest := by
  constructor
  · intro h
    simp only [hasCredentials] at h
    split at h
    · cases h
    rename_i credentials host hat
    split at h
    · cases h
    rename_i user password hcolon
    obtain ⟨_, hauthority, hc, -⟩ := rsplitOnce_eq_some.mp hat
    obtain ⟨_, rfl, hd, hplain⟩ := splitOnce_eq_some.mp hcolon
    obtain rfl := beq_iff_eq.mp hc
    obtain rfl := beq_iff_eq.mp hd
    have hall := all_takeWhile (p := inAuthority) (l := rest)
    obtain ⟨more, hrest⟩ := takeWhile_prefix inAuthority (l := rest)
    rw [hauthority] at hall hrest
    refine ⟨user, password, host ++ more, ?_, ?_⟩
    · simp [← hrest]
    · simp at h hall hplain ⊢
      grind
  · rintro ⟨user, password, host, rfl, huser, hpassword, hcolon, hplain⟩
    have hauthority : (user ++ ':' :: (password ++ '@' :: host)).takeWhile inAuthority =
        user ++ ':' :: (password ++ '@' :: host.takeWhile inAuthority) := by
      simp only [forall_mem_append] at hplain
      rw [takeWhile_append_of_pos, takeWhile_cons_of_pos, takeWhile_append_of_pos,
        takeWhile_cons_of_pos]
      · rfl
      · simpa [and_assoc] using hplain.2
      · rfl
      · simpa [and_assoc] using hplain.1
    have hcolon' : ∀ c ∈ user, (c == ':') = false := by
      intro c hc
      exact beq_false_of_ne fun heq => hcolon (heq ▸ hc)
    obtain ⟨more, last, hat⟩ := rsplitOnce_append (p := (· == '@')) (beq_self_eq_true '@')
      (user ++ ':' :: password) (host.takeWhile inAuthority)
    have hsplit : splitOnce (· == ':') (user ++ ':' :: (password ++ more)) =
        some (user, password ++ more) := splitOnce_eq_some.mpr ⟨':', rfl, rfl, hcolon'⟩
    simp only [append_assoc, cons_append] at hat
    simp only [hasCredentials]
    rw [hauthority, hat]
    simp [hsplit, huser, hpassword]

theorem inspect_eq_ok_iff {input : List Char} : inspect input = .ok () ↔
    byteLen input ≤ maxScanBytes ∧ containsPrivateKey input = false ∧
      containsProviderToken input = false ∧ ∀ line ∈ lines input,
        containsCredentialedConnection line = false ∧ containsSecretAssignment line = false := by
  simp only [inspect, inspectLine, ok_iff, forM_eq_ok, Bool.not_eq_true, gt_iff_lt, not_lt]

theorem containsCredentialedConnection_eq_true : containsCredentialedConnection line = true ↔
    ∃ scheme ∈ connectionSchemes, FirstCredentials line scheme := by
  rw [containsCredentialedConnection, any_eq_true]
  refine exists_congr fun scheme => and_congr_right fun _ => ?_
  constructor
  · intro h
    split at h
    · cases h
    · rename_i rest hrest
      obtain ⟨before, found, hline, hlength, hfirst⟩ := afterScheme_eq_some.mp hrest
      exact ⟨before, found, rest, hline, hlength, hfirst, hasCredentials_eq_true.mp h⟩
  · rintro ⟨before, found, rest, hline, hlength, hfirst, hcredentials⟩
    rw [afterScheme_eq_some.mpr ⟨before, found, hline, hlength, hfirst⟩]
    exact hasCredentials_eq_true.mpr hcredentials

end Connections

/-- A text within the limit is refused exactly if one of the other rules finds a secret or, on some
line, the first place of some scheme is followed by credentials. -/
theorem inspect_refuses_iff (input : List Char) (hsize : byteLen input ≤ maxScanBytes) :
    inspect input ≠ .ok () ↔
      (∃ line ∈ lines input, ∃ scheme ∈ connectionSchemes, FirstCredentials line scheme) ∨
        containsPrivateKey input = true ∨ containsProviderToken input = true ∨
        ∃ line ∈ lines input, containsSecretAssignment line = true := by
  simp only [ne_eq, inspect_eq_ok_iff, hsize, true_and, ← containsCredentialedConnection_eq_true]
  grind

theorem inspect_refuses_credentials :
    byteLen "cache\n at redis://app:hunter2@db!".toList ≤ maxScanBytes ∧
      inspect "cache\n at redis://app:hunter2@db!".toList ≠ .ok () := by
  have hurl : containsCredentialedConnection " at redis://app:hunter2@db!".toList = true := by
    decide +kernel
  refine ⟨by decide, (inspect_refuses_iff _ (by decide)).mpr (.inl ?_)⟩
  exact ⟨_, by decide, containsCredentialedConnection_eq_true.mp hurl⟩

/-- The second URL of a scheme on a line is not looked at. -/
theorem second_url_passes : ∃ before user password host : List Char,
      before ++ "redis://".toList ++ (user ++ ':' :: (password ++ '@' :: host)) =
        "redis://cache redis://app:hunter2@db".toList ∧
      lines "redis://cache redis://app:hunter2@db".toList =
        ["redis://cache redis://app:hunter2@db".toList] ∧
      user ≠ [] ∧ password ≠ [] ∧ (∀ c ∈ user ++ password, c ∉ ['/', '?', '#', '@']) ∧
      inspect "redis://cache redis://app:hunter2@db".toList = .ok () :=
  have hplain : ("app".toList ++ "hunter2".toList).all
      (fun c => decide (c ∉ ['/', '?', '#', '@'])) = true := by decide
  ⟨"redis://cache ".toList, "app".toList, "hunter2".toList, "db".toList, by decide, by decide,
    by decide, by decide, fun c hc => of_decide_eq_true (all_eq_true.mp hplain c hc),
    by decide +kernel⟩

end CarlAgent.Security
