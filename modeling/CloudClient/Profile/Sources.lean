import CloudClient.Profile

/-!
# Where profiles come from

Profiles come from two section files and the environment. The configuration
file has a profile in the section `default` and in each section whose name
begins with `profile`; its other sections are left to others. The credentials
file has in each section the keys of the profile of that name. Where both
have a setting, the credentials file wins, and a variable of the environment
wins over both.

A file that is not there is an empty one. The names of profiles keep the
order in which they first occur.
-/

namespace CloudClient

/-- A file that may be there. -/
structure SourceFile where
  /-- Where it is, for messages. -/
  path : String
  /-- What is in it, if it is there. -/
  contents : Option Octets

/-- What profiles are read from. -/
structure ProfileSources where
  config : SourceFile
  credentials : SourceFile
  /-- The variables of the environment. -/
  environment : List (String × String)

/-- The profiles of the two files. -/
structure Profiles where
  /-- The profile of each name. -/
  all : OrderedMap String Profile

namespace Profiles

/-- The name of the profile that is meant when none is named. -/
def defaultName : String := "default"

/-- How the section of any other profile begins. -/
def sectionMark : String := "profile "

/-- No profiles. -/
def empty : Profiles := ⟨.empty⟩

/-- The name of the default profile, if it is there. -/
def default? (p : Profiles) : Option String :=
  if p.all.has defaultName then some defaultName else none

/-- The names of the profiles. -/
def names (p : Profiles) : List String := p.all.keys

/-- The profile of a name, bare if it is not there. -/
def get (p : Profiles) (name : String) : Profile := (p.all.find? name).getD (.bare name)

/-- The profiles with the settings of a section given to a profile. -/
def take (p : Profiles) (name : String) (options : SectionOptions) : Except Fault Profiles :=
  ((p.get name).updateTexts options.entries).map fun profile => ⟨p.all.put name profile⟩

/-- The profile that a section of the configuration file is of. -/
def ofSection? (title : String) : Option String :=
  if title = defaultName then some defaultName
  else if Text.startsWith sectionMark title then
    some (Text.trim (Text.dropFirst sectionMark.length title))
  else none

/-- The profiles with the sections of a file, of which `nameOf?` says whose
they are. -/
def takeAll (p : Profiles) (nameOf? : String → Option String) (f : SectionFile) :
    Except Fault Profiles :=
  f.sections.entries.foldlM
    (fun p s => match nameOf? s.1 with
      | none => .ok p
      | some name => p.take name (f.options s.2))
    p

end Profiles

/-- What comes of a source that is not read. -/
def SourceFile.unread (f : SourceFile) : SectionFile.OctetsFault → Failure
  | .undecodable => .defect .undecodable
  | .refused fault =>
    .fault (.configuration (.unreadableFile f.path) none (some (.sections fault)))

/-- The section file of a source. -/
def SourceFile.read (f : SourceFile) : Except Failure SectionFile :=
  match f.contents with
  | none => .ok .empty
  | some octets => (SectionFile.readOctets octets).mapError f.unread

namespace ProfileSources

/-- The profiles with the sections of a source. -/
def takeFile (p : Profiles) (nameOf? : String → Option String) (f : SourceFile) :
    Except Failure Profiles :=
  match f.read with
  | .error failure => .error failure
  | .ok sections =>
    match p.takeAll nameOf? sections with
    | .error fault => .error (.fault fault)
    | .ok profiles => .ok profiles

/-- The profiles of both files. -/
def load (s : ProfileSources) : Except Failure Profiles :=
  match takeFile .empty Profiles.ofSection? s.config with
  | .error failure => .error failure
  | .ok profiles => takeFile profiles some s.credentials

/-! ## One profile -/

/-- The value of a variable, unless it is empty. -/
def setVariable? (s : ProfileSources) (name : String) : Option String :=
  match Entries.find? s.environment name with
  | none => none
  | some value => if value = "" then none else some value

/-- The variable that names a profile. -/
def profileVariable : String := "NOVAGATE_PROFILE"

/-- The name of the profile that is meant. -/
def chosenName (s : ProfileSources) (asked : Option String) : String :=
  match asked.filter (· != "") with
  | some name => name
  | none => (s.setVariable? profileVariable).getD Profiles.defaultName

/-- The settings of the environment. -/
def overrides (s : ProfileSources) : List (String × String) :=
  ProfileKey.all.filterMap fun key => (s.setVariable? key.environmentName).map (key.name, ·)

/-- The profile that is meant, before the environment has its say. -/
def stored (profiles : Profiles) (overrides : List (String × String)) (name : String) :
    Except Fault Profile :=
  match profiles.all.find? name with
  | some profile => .ok profile
  | none =>
    if overrides.isEmpty then .error (.setting (.noProfile name) "profile") else .ok (.bare name)

/-- The profile of a name; without one the environment or the default
decides. -/
def profile (s : ProfileSources) (asked : Option String) : Except Failure Profile :=
  match s.load with
  | .error failure => .error failure
  | .ok profiles =>
    match stored profiles s.overrides (s.chosenName asked) with
    | .error fault => .error (.fault fault)
    | .ok profile =>
      match profile.updateTexts s.overrides with
      | .error fault => .error (.fault fault)
      | .ok profile => .ok profile

/-- The session of a profile. -/
def session (s : ProfileSources) (asked : Option String) : Except Failure Session :=
  match s.profile asked with
  | .error failure => .error failure
  | .ok profile =>
    match profile.toSession with
    | .error fault => .error (.fault fault)
    | .ok session => .ok session

end ProfileSources

end CloudClient
