import MqAdmin.CommandLine.Connect

namespace MqAdmin

namespace Credentials

def username? : Credentials → Option String
  | .basic username _ | .ltpa username _ => some username
  | .certificate .. => none

def password? : Credentials → Option String
  | .basic _ password | .ltpa _ password => some password
  | .certificate .. => none

def isLogin : Credentials → Bool
  | .ltpa .. => true
  | .basic .. | .certificate .. => false

def isCertificate : Credentials → Bool
  | .certificate .. => true
  | .basic .. | .ltpa .. => false

theorem isCertificate_iff (credentials : Credentials) :
    credentials.isCertificate = true ↔ credentials.username? = none := by
  cases credentials <;> simp [isCertificate, username?]

end Credentials

namespace CommandLine

@[simp] theorem username?_namedCredentials (logsIn : Bool) (user password : String) :
    (namedCredentials logsIn user password).username? = some user := by
  cases logsIn <;> rfl

@[simp] theorem password?_namedCredentials (logsIn : Bool) (user password : String) :
    (namedCredentials logsIn user password).password? = some password := by
  cases logsIn <;> rfl

@[simp] theorem isLogin_namedCredentials (logsIn : Bool) (user password : String) :
    (namedCredentials logsIn user password).isLogin = logsIn := by
  cases logsIn <;> rfl

@[simp] theorem isCertificate_namedCredentials (logsIn : Bool) (user password : String) :
    (namedCredentials logsIn user password).isCertificate = false := by
  cases logsIn <;> rfl

inductive Origin where
  | options
  | file
  | environment
deriving DecidableEq

variable {preferences : Preferences} {source : Variables.Source} {fromFile : Option Credentials}

/-- The place that names the user. A place counts only where those before it say nothing, and a
file with a certificate does say something. -/
inductive NamedBy (preferences : Preferences) (source : Variables.Source)
    (fromFile : Option Credentials) : Origin → String → Prop
  | options {name : String} (said : preferences.user = some name) :
    NamedBy preferences source fromFile .options name
  | file {held : Credentials} {name : String} (silent : preferences.user = none)
    (holds : fromFile = some held) (named : held.username? = some name) :
    NamedBy preferences source fromFile .file name
  | environment {name : String} (silent : preferences.user = none) (empty : fromFile = none)
    (set : source Variables.adminUser = some name) :
    NamedBy preferences source fromFile .environment name

/-- The password that goes with a name from a place where the options have none. Options that only
name a user leave the password to the variables. -/
def Origin.password (source : Variables.Source) (fromFile : Option Credentials) :
    Origin → String
  | .file => (fromFile.bind Credentials.password?).getD ""
  | .options | .environment => (source Variables.adminPassword).getD ""

/-- Whether the place of the name asks for a login of its own accord. -/
def Origin.logsIn (fromFile : Option Credentials) : Origin → Bool
  | .file => fromFile.any Credentials.isLogin
  | .options | .environment => false

inductive Refuses (preferences : Preferences) (source : Variables.Source)
    (fromFile : Option Credentials) : Failed → Prop
  | certificate {held : Credentials} (silent : preferences.user = none)
    (holds : fromFile = some held) (certified : held.isCertificate = true)
    (asked : preferences.logsIn = true ∨ preferences.password.isSome = true) :
    Refuses preferences source fromFile .certificateOnly
  | nobody (silent : preferences.user = none) (empty : fromFile = none)
    (unset : source Variables.adminUser = none) :
    Refuses preferences source fromFile .noCredentials

inductive Chosen (preferences : Preferences) (source : Variables.Source)
    (fromFile : Option Credentials) : Credentials → Prop
  | certificate {held : Credentials} (silent : preferences.user = none)
    (holds : fromFile = some held) (certified : held.isCertificate = true)
    (plain : preferences.logsIn = false) (bare : preferences.password = none) :
    Chosen preferences source fromFile held
  | named {origin : Origin} {name : String}
    (named : NamedBy preferences source fromFile origin name) :
    Chosen preferences source fromFile
      (namedCredentials (preferences.logsIn || origin.logsIn fromFile) name
        (preferences.password.getD (origin.password source fromFile)))

theorem NamedBy.unique {origin origin' : Origin} {name name' : String}
    (one : NamedBy preferences source fromFile origin name)
    (other : NamedBy preferences source fromFile origin' name') :
    origin = origin' ∧ name = name' := by
  cases one <;> cases other <;> simp_all

theorem Refuses.credentials_eq {failed : Failed}
    (refuses : Refuses preferences source fromFile failed) :
    credentials preferences source fromFile = .error failed := by
  cases refuses with
  | @certificate held silent holds certified asked =>
    cases held with
    | basic | ltpa => simp [Credentials.isCertificate] at certified
    | certificate certificatePath keyPath =>
      have flags : (preferences.logsIn || preferences.password.isSome) = true := by
        simpa using asked
      simp only [credentials, silent, holds, fileCredentials, flags, if_true]
  | nobody silent empty unset =>
    simp only [credentials, silent, empty, Option.none_or, unset]

theorem NamedBy.credentials_eq {origin : Origin} {name : String}
    (named : NamedBy preferences source fromFile origin name) :
    credentials preferences source fromFile =
      .ok (namedCredentials (preferences.logsIn || origin.logsIn fromFile) name
        (preferences.password.getD (origin.password source fromFile))) := by
  cases named with
  | options said =>
    cases fromFile <;> simp [credentials, said, Origin.logsIn, Origin.password, Option.getD_or]
  | @file held _ silent holds named =>
    cases held with
    | basic username password =>
      obtain rfl : username = name := by simpa [Credentials.username?] using named
      simp [credentials, silent, holds, fileCredentials, Origin.logsIn, Origin.password,
        Credentials.isLogin, Credentials.password?]
    | ltpa username password =>
      obtain rfl : username = name := by simpa [Credentials.username?] using named
      simp [credentials, silent, holds, fileCredentials, Origin.logsIn, Origin.password,
        Credentials.isLogin, Credentials.password?, namedCredentials]
    | certificate => simp [Credentials.username?] at named
  | environment silent empty set =>
    simp [credentials, silent, empty, set, Origin.logsIn, Origin.password, Option.getD_or]

theorem Chosen.credentials_eq {found : Credentials}
    (chosen : Chosen preferences source fromFile found) :
    credentials preferences source fromFile = .ok found := by
  cases chosen with
  | certificate silent holds certified plain bare =>
    cases found with
    | basic | ltpa => simp [Credentials.isCertificate] at certified
    | certificate certificatePath keyPath =>
      simp [credentials, silent, holds, fileCredentials, plain, bare]
  | named named => exact named.credentials_eq

/-- There is nothing between credentials and a failure. -/
theorem chosen_or_refuses (preferences : Preferences) (source : Variables.Source)
    (fromFile : Option Credentials) :
    (∃ found, Chosen preferences source fromFile found) ∨
      ∃ failed, Refuses preferences source fromFile failed := by
  cases silent : preferences.user with
  | some name => exact .inl ⟨_, .named (.options silent)⟩
  | none =>
    cases holds : fromFile with
    | none =>
      cases set : source Variables.adminUser with
      | none => exact .inr ⟨_, .nobody silent rfl set⟩
      | some name => exact .inl ⟨_, .named (.environment silent rfl set)⟩
    | some held =>
      cases named : held.username? with
      | some name => exact .inl ⟨_, .named (.file silent rfl named)⟩
      | none =>
        have certified := held.isCertificate_iff.mpr named
        by_cases asked : preferences.logsIn = true ∨ preferences.password.isSome = true
        · exact .inr ⟨_, .certificate silent rfl certified asked⟩
        · obtain ⟨plain, bare⟩ := not_or.mp asked
          exact .inl ⟨held, .certificate silent rfl certified (by simpa using plain)
            (by simpa using bare)⟩

theorem credentials_eq_error_iff {failed : Failed} :
    credentials preferences source fromFile = .error failed ↔
      Refuses preferences source fromFile failed := by
  constructor
  · intro outcome
    rcases chosen_or_refuses preferences source fromFile with ⟨found, chosen⟩ | ⟨other, refuses⟩
    · cases outcome.symm.trans chosen.credentials_eq
    · cases outcome.symm.trans refuses.credentials_eq
      exact refuses
  · exact Refuses.credentials_eq

theorem credentials_eq_ok_iff {found : Credentials} :
    credentials preferences source fromFile = .ok found ↔
      Chosen preferences source fromFile found := by
  constructor
  · intro outcome
    rcases chosen_or_refuses preferences source fromFile with ⟨other, chosen⟩ | ⟨failed, refuses⟩
    · cases outcome.symm.trans chosen.credentials_eq
      exact chosen
    · cases outcome.symm.trans refuses.credentials_eq
  · exact Chosen.credentials_eq

theorem Chosen.fileIgnored {found : Credentials}
    (chosen : Chosen preferences source fromFile found) (said : preferences.user.isSome = true)
    (other : Option Credentials) : credentials preferences source other = .ok found := by
  cases chosen with
  | certificate silent => simp [silent] at said
  | named named =>
    cases named with
    | options said => exact (NamedBy.options said).credentials_eq
    | file silent => simp [silent] at said
    | environment silent => simp [silent] at said

theorem Chosen.variablesIgnored {found : Credentials}
    (chosen : Chosen preferences source fromFile found) (silent : preferences.user = none)
    (holds : fromFile.isSome = true) (other : Variables.Source) :
    credentials preferences other fromFile = .ok found := by
  cases chosen with
  | certificate silent holds certified plain bare =>
    exact (Chosen.certificate silent holds certified plain bare).credentials_eq
  | named named =>
    cases named with
    | options said => simp [silent] at said
    | file silent holds named => exact (NamedBy.file silent holds named).credentials_eq
    | environment silent empty => simp [empty] at holds

theorem NamedBy.name_eq {origin : Origin} {name : String}
    (named : NamedBy preferences source fromFile origin name) :
    preferences.user.or ((fromFile.bind Credentials.username?).or (source Variables.adminUser)) =
      some name := by
  cases named with
  | options said => simp [said]
  | file silent holds named => simp [silent, holds, named]
  | environment silent empty set => simp [silent, empty, set]

theorem NamedBy.not_certified {origin : Origin} {name : String}
    (named : NamedBy preferences source fromFile origin name) (silent : preferences.user = none)
    {held : Credentials} (holds : fromFile = some held) : held.isCertificate = false := by
  cases named with
  | options said => simp [silent] at said
  | @file file _ _ holds' named =>
    obtain rfl : file = held := Option.some.inj (holds'.symm.trans holds)
    cases file with
    | basic | ltpa => rfl
    | certificate => simp [Credentials.username?] at named
  | environment _ empty => simp [empty] at holds

theorem NamedBy.logsIn_iff {origin : Origin} {name : String}
    (named : NamedBy preferences source fromFile origin name) :
    origin.logsIn fromFile = true ↔
      preferences.user = none ∧ ∃ held, fromFile = some held ∧ held.isLogin = true := by
  cases named with
  | options said => simp [Origin.logsIn, said]
  | file silent holds named => simp [Origin.logsIn, silent, holds]
  | environment silent empty set => simp [Origin.logsIn, empty]

/-- What credentials have to do with the places that they may come from. -/
structure Unmixed (preferences : Preferences) (source : Variables.Source)
    (fromFile : Option Credentials) (found : Credentials) : Prop where
  /-- Where the options name the user, any other file leads to the same credentials. -/
  fileIgnored : preferences.user.isSome = true →
    ∀ other, credentials preferences source other = .ok found
  /-- Where the file counts, any other variables lead to the same credentials. -/
  variablesIgnored : preferences.user = none → fromFile.isSome = true →
    ∀ other, credentials preferences other fromFile = .ok found
  username : found.isCertificate = false →
    found.username? = preferences.user.or
      ((fromFile.bind Credentials.username?).or (source Variables.adminUser))
  /-- A name goes with the options' password or else with the one that its place allows. -/
  password : ∀ origin name, NamedBy preferences source fromFile origin name →
    found.username? = some name ∧
      found.password? = some (preferences.password.getD (origin.password source fromFile))
  origin : found.isCertificate = false →
    ∃ origin name, NamedBy preferences source fromFile origin name
  certificate : found.isCertificate = true ↔
    preferences.user = none ∧ ∃ held, fromFile = some held ∧ held.isCertificate = true
  held : found.isCertificate = true → fromFile = some found
  login : found.isCertificate = false → (found.isLogin = true ↔
    preferences.logsIn = true ∨
      preferences.user = none ∧ ∃ held, fromFile = some held ∧ held.isLogin = true)

theorem Chosen.unmixed {found : Credentials} (chosen : Chosen preferences source fromFile found) :
    Unmixed preferences source fromFile found := by
  have fileIgnored := chosen.fileIgnored
  have variablesIgnored := chosen.variablesIgnored
  cases chosen with
  | certificate silent holds certified =>
    have unnamed : ∀ origin name, ¬ NamedBy preferences source fromFile origin name := by
      intro origin name named
      simp [named.not_certified silent holds] at certified
    exact
      { fileIgnored
        variablesIgnored
        username := by simp [certified]
        password := fun origin name named => absurd named (unnamed origin name)
        origin := by simp [certified]
        certificate := by simp [certified, silent, holds]
        held := fun _ => holds
        login := by simp [certified] }
  | @named origin name named =>
    exact
      { fileIgnored
        variablesIgnored
        username := fun _ => by rw [username?_namedCredentials, named.name_eq]
        password := by
          intro origin' name' named'
          obtain ⟨rfl, rfl⟩ := named.unique named'
          exact ⟨username?_namedCredentials .., password?_namedCredentials ..⟩
        origin := fun _ => ⟨origin, name, named⟩
        certificate := by
          rw [isCertificate_namedCredentials]
          constructor
          · intro certified
            cases certified
          · rintro ⟨silent, held, holds, certified⟩
            exact (named.not_certified silent holds).symm.trans certified
        held := by simp
        login := fun _ => by
          rw [isLogin_namedCredentials, Bool.or_eq_true, named.logsIn_iff] }

/-- The choice fails for want of a name, or where a password or a login is asked for beside the
file's certificate. What it comes to otherwise mixes no two places. -/
theorem credentials_unmixed (preferences : Preferences) (source : Variables.Source)
    (fromFile : Option Credentials) :
    (∀ failed, credentials preferences source fromFile = .error failed ↔
      Refuses preferences source fromFile failed) ∧
    ∀ found, credentials preferences source fromFile = .ok found →
      Unmixed preferences source fromFile found := by
  constructor
  · intro failed
    exact credentials_eq_error_iff
  · intro found outcome
    exact (credentials_eq_ok_iff.mp outcome).unmixed

/-- A file's login next to variables that name someone else, and a certificate next to an option
that asks for a login. -/
theorem credentials_unmixed_two_files :
    Unmixed {} (fun _ => some "other") (some (.ltpa "filer" "secret")) (.ltpa "filer" "secret") ∧
      credentials { logsIn := true } (fun _ => some "other")
        (some (.certificate "client.pem" none)) = .error .certificateOnly :=
  ⟨(credentials_unmixed _ _ _).2 _ rfl,
    ((credentials_unmixed _ _ _).1 _).mpr (.certificate rfl rfl rfl (.inl rfl))⟩

end CommandLine

end MqAdmin
