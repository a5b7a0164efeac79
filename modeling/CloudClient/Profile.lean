import CloudClient.Session

/-!
# Profiles

A profile holds what a session is made of, under a name, as far as it is
known: from a file, another file, or the environment. Each source is a row of
settings, and a later source overrides an earlier one setting by setting. A
text is trimmed, and a blank one means that there is no value – so a blank
setting in a later source takes an earlier value away.

Settings that a profile does not know are passed over. The only one that can
be at fault is the port of the proxy; the settings before it in the same row
have been taken by then.

A session needs four of the values (`Profile.required`).
-/

namespace CloudClient

/-- The settings that a profile knows. -/
inductive ProfileKey where
  | endpoint
  | account
  | region
  | accessKey
  | secretKey
  | operator
  | insecure
  | proxyHost
  | proxyPort
  deriving DecidableEq, Repr

namespace ProfileKey

/-- The name of a setting. -/
def name : ProfileKey → String
  | endpoint => "endpoint"
  | account => "account"
  | region => "region"
  | accessKey => "access_key"
  | secretKey => "secret_key"
  | operator => "provider"
  | insecure => "insecure"
  | proxyHost => "proxy_host"
  | proxyPort => "proxy_port"

/-- The environment variable of a setting. -/
def environmentName : ProfileKey → String
  | endpoint => "NOVAGATE_ENDPOINT"
  | account => "NOVAGATE_ACCOUNT"
  | region => "NOVAGATE_REGION"
  | accessKey => "NOVAGATE_ACCESS_KEY"
  | secretKey => "NOVAGATE_SECRET_KEY"
  | operator => "NOVAGATE_PROVIDER"
  | insecure => "NOVAGATE_INSECURE"
  | proxyHost => "NOVAGATE_PROXY_HOST"
  | proxyPort => "NOVAGATE_PROXY_PORT"

/-- All settings. -/
def all : List ProfileKey :=
  [endpoint, account, region, accessKey, secretKey, operator, insecure, proxyHost, proxyPort]

/-- The setting of the given name. -/
def ofName? (name : String) : Option ProfileKey := all.find? fun k => k.name == name

end ProfileKey

/-- The value of a setting: text as a file has it, or a value of its own
kind. -/
inductive SettingValue where
  | text (s : String)
  | flag (b : Bool)
  | port (n : Option Int)
  deriving DecidableEq, Repr

/-- What a session is made of, as far as it is known. -/
structure Profile where
  name : String
  endpoint : Option String := none
  account : Option String := none
  region : Option String := none
  accessKey : Option String := none
  secretKey : Option String := none
  operator : Option String := none
  insecure : Bool := false
  proxyHost : Option String := none
  proxyPort : Option Int := none
  deriving DecidableEq, Repr

namespace Profile

/-- The profile of which nothing but the name is known. -/
def bare (name : String) : Profile := { name }

/-! ## Settings -/

/-- The words that mean yes. -/
def yesWords : List String := ["1", "true", "yes", "on"]

/-- Whether a text means yes. -/
def meansYes (s : String) : Bool := yesWords.contains (Text.lower (Text.trim s))

/-- The port that a text denotes; an empty text denotes none. -/
def readPort (s : String) : Except Fault (Option Int) :=
  if s = "" then .ok none
  else match Integer.read s with
    | .ok n => .ok (some n)
    | .error fault =>
      .error (.configuration (.badPort s) (some ProfileKey.proxyPort.name) (some (.integer fault)))

/-- The profile with the text of a setting that is kept as text. -/
def setText (p : Profile) (key : ProfileKey) (value : Option String) : Profile :=
  match key with
  | .endpoint => { p with endpoint := value }
  | .account => { p with account := value }
  | .region => { p with region := value }
  | .accessKey => { p with accessKey := value }
  | .secretKey => { p with secretKey := value }
  | .operator => { p with operator := value }
  | .proxyHost => { p with proxyHost := value }
  | .insecure | .proxyPort => p

/-- The profile with a setting. -/
def set (p : Profile) (key : ProfileKey) (value : SettingValue) : Except Fault Profile :=
  match key, value with
  | .insecure, .text s => .ok { p with insecure := meansYes s }
  | .insecure, .flag b => .ok { p with insecure := b }
  | .proxyPort, .text s => (readPort s).map fun port => { p with proxyPort := port }
  | .proxyPort, .port n => .ok { p with proxyPort := n }
  | key, .text s => .ok (p.setText key (Text.nonBlank? s))
  | _, _ => .ok p

/-- The profile with a row of settings, as far as there is no fault, and the
fault if there is one. -/
def update (p : Profile) : List (String × SettingValue) → Profile × Option Fault
  | [] => (p, none)
  | (name, value) :: more =>
    match ProfileKey.ofName? name with
    | none => p.update more
    | some key =>
      match p.set key value with
      | .error fault => (p, some fault)
      | .ok p => p.update more

/-- The profile with a row of settings that are texts. -/
def updateTexts (p : Profile) (settings : List (String × String)) : Except Fault Profile :=
  match p.update (settings.map fun s => (s.1, .text s.2)) with
  | (_, some fault) => .error fault
  | (p, none) => .ok p

/-! ## Sessions -/

/-- The values that a session needs, with the names of their settings. -/
def required (p : Profile) : List (ProfileKey × Option String) :=
  [(.endpoint, p.endpoint), (.account, p.account), (.accessKey, p.accessKey),
   (.secretKey, p.secretKey)]

/-- Whether a value is missing or empty. -/
def isMissing (value : Option String) : Bool := value.getD "" == ""

/-- The first setting that a session needs and the profile lacks. -/
def lacking? (p : Profile) : Option ProfileKey :=
  (p.required.find? fun r => isMissing r.2).map Prod.fst

/-- The operator of a profile that names none. -/
def defaultOperator : String := "OpenStack"

/-- What the profile says on access. -/
def access (p : Profile) : Access where
  publicKey := .text (p.accessKey.getD "")
  privateKey := .text (p.secretKey.getD "")
  region := p.region
  operator := some (if isMissing p.operator then defaultOperator else p.operator.getD "")
  insecure := p.insecure
  proxyHost := p.proxyHost
  proxyPort := p.proxyPort

/-- The session of a profile. -/
def toSession (p : Profile) : Except Fault Session :=
  match p.lacking? with
  | some key => .error (.setting (.missingValue p.name key.name) key.name)
  | none => Session.establish p.endpoint p.account p.access

end Profile

end CloudClient
