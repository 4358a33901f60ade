import Mathlib.Data.List.TakeDrop
import CallHistory.Proofs.Text.Quoting
import CallHistory.Service.Basic

/-! # What is shown of an address

Of the address of a database nothing is shown but its masked form, in descriptions as in reports,
and the masked form itself can be told from a description. A password in the authority leaves no
trace. One in the query, behind the next slash, is shown in clear.
-/

namespace CallHistory

/-! ## Descriptions -/

namespace Settings

/-- One item of a list that is joined stands between the same texts, whatever it is. -/
theorem exists_intercalate (separator : List Char) (before after : List (List Char)) :
    ∃ front back, ∀ item,
      separator.intercalate (before ++ item :: after) = front ++ item ++ back := by
  induction before with
  | nil =>
    cases after with
    | nil => exact ⟨[], [], fun item => by simp⟩
    | cons next after =>
      refine ⟨[], separator ++ separator.intercalate (next :: after), fun item => ?_⟩
      rw [List.nil_append, List.intercalate_cons_cons, List.append_assoc, List.nil_append]
  | cons first before ih =>
    obtain ⟨front, back, hjoined⟩ := ih
    refine ⟨first ++ separator ++ front, back, fun item => ?_⟩
    obtain ⟨next, rest, hrest⟩ := List.exists_cons_of_ne_nil
      (List.append_ne_nil_of_right_ne_nil before (List.cons_ne_nil item after))
    rw [List.cons_append, hrest, List.intercalate_cons_cons, ← hrest, hjoined]
    simp only [List.append_assoc]

theorem exists_describeAs (name key : String) (before after : List (String × List Char)) :
    ∃ front back, ∀ value,
      describeAs name (before ++ (key, value) :: after) = front ++ value ++ back := by
  let spelled (f : String × List Char) : List Char := f.1.toList ++ ": ".toList ++ f.2
  obtain ⟨front, back, hjoined⟩ :=
    exists_intercalate ", ".toList (before.map spelled) (after.map spelled)
  refine ⟨name.toList ++ " \x7b ".toList ++ (front ++ (key.toList ++ ": ".toList)),
    back ++ " \x7d".toList, fun value => ?_⟩
  have hfields : ", ".toList.intercalate ((before ++ (key, value) :: after).map spelled) =
      front ++ (key.toList ++ ": ".toList ++ value) ++ back := by
    rw [List.map_append, List.map_cons]
    exact hjoined _
  calc
    describeAs name (before ++ (key, value) :: after) =
        name.toList ++ " \x7b ".toList ++ (front ++ (key.toList ++ ": ".toList ++ value) ++ back)
          ++ " \x7d".toList := by rw [describeAs, hfields]
    _ = _ := by simp only [List.append_assoc]

/-- Descriptions that differ in the value of one field tell the values. -/
theorem describeAs_inj {name key : String} {before after : List (String × List Char)}
    {x y : List Char} :
    describeAs name (before ++ (key, x) :: after) = describeAs name (before ++ (key, y) :: after) ↔
      x = y := by
  obtain ⟨front, back, hshown⟩ := exists_describeAs name key before after
  rw [hshown, hshown, List.append_left_inj, List.append_right_inj]

end Settings

def StoreSettings.withUrl (s : StoreSettings) (url : List Char) : StoreSettings :=
  { s with url := .ofList url }

def Settings.withUrl (s : Settings) (url : List Char) : Settings :=
  { s with store := s.store.withUrl url }

/-- A description of a store tells the masked form of an address, and nothing else of it. -/
theorem StoreSettings.describe_withUrl_inj {s : StoreSettings} {u v : List Char} :
    (s.withUrl u).describe = (s.withUrl v).describe ↔ Settings.mask u = Settings.mask v := by
  have hdescribe (url : List Char) : (s.withUrl url).describe = Settings.describeAs "StoreConfig"
      ([("kind", s.kind.title.toList), ("path", Text.Quoted.path s.path.toList)] ++
        ("database_url", Text.Quoted.text (Settings.mask url)) ::
          [("max_connections", Text.Decimal.ofNat s.connections.toNat)]) := by
    simp only [withUrl, describe, String.toList_ofList, List.cons_append, List.nil_append]
  rw [hdescribe, hdescribe, Settings.describeAs_inj, Text.Quoted.text_inj]

theorem Settings.describe_withUrl_inj {s : Settings} {u v : List Char} :
    (s.withUrl u).describe = (s.withUrl v).describe ↔ mask u = mask v := by
  obtain ⟨before, after, hdescribe⟩ : ∃ before after, ∀ url, (s.withUrl url).describe =
      describeAs "Config" (before ++ ("store", (s.store.withUrl url).describe) :: after) :=
    ⟨[_, _], [_, _], fun _ => by dsimp only [describe, withUrl]; rfl⟩
  rw [hdescribe, hdescribe, describeAs_inj, StoreSettings.describe_withUrl_inj]

/-! ## Reports -/

namespace Report.Event

variable {reveal : Bool}

theorem line_inj (e e' : Event) (hlevel : e.level = e'.level)
    (hfields : e.fields reveal = e'.fields reveal) :
    e.line reveal = e'.line reveal ↔ e.message reveal = e'.message reveal := by
  rw [line, line, fieldText, fieldText, hlevel, hfields, String.append_left_inj,
    String.append_right_inj]

theorem line_settingsLoaded_inj {d d' : List Char} :
    (settingsLoaded (.ofList d)).line reveal = (settingsLoaded (.ofList d')).line reveal ↔
      d = d' := by
  rw [line_inj (settingsLoaded (.ofList d)) (settingsLoaded (.ofList d')) rfl rfl]
  exact (String.append_right_inj _).trans String.ofList_inj

theorem line_poolAddress_inj {d d' : List Char} :
    (poolAddress (.ofList d)).line reveal = (poolAddress (.ofList d')).line reveal ↔ d = d' := by
  rw [line_inj (poolAddress (.ofList d)) (poolAddress (.ofList d')) rfl rfl]
  exact (String.append_right_inj _).trans String.ofList_inj

end Report.Event

variable {δ : Type} {u v : List Char}

theorem Archive.openDatabase_withUrl (h : Settings.mask u = Settings.mask v) (s : StoreSettings)
    (site : Archive.Site δ) :
    openDatabase (s.withUrl u) site = openDatabase (s.withUrl v) site := by
  simp only [openDatabase, StoreSettings.withUrl, String.toList_ofList, h]

theorem Service.run_withUrl (h : Settings.mask u = Settings.mask v) (s : Settings)
    (around : Surroundings δ) : run (s.withUrl u) around = run (s.withUrl v) around := by
  have hopen : Archive.openStore (s.store.withUrl u) around.site =
      Archive.openStore (s.store.withUrl v) around.site := by
    have hdatabase := Archive.openDatabase_withUrl h s.store around.site
    unfold Archive.openStore
    rw [hdatabase]
    rfl
  have hwork : work (s.withUrl u) around = work (s.withUrl v) around := by
    unfold work
    rw [show (s.withUrl u).store = s.store.withUrl u from rfl,
      show (s.withUrl v).store = s.store.withUrl v from rfl, hopen]
    rfl
  unfold run
  rw [Settings.describe_withUrl_inj.mpr h, hwork]
  rfl

/-! ## Addresses -/

namespace Settings

theorem splitAuthority_append {authority tail : List Char} (hauthority : '/' ∉ authority)
    (htail : ∀ c ∈ tail.head?, c = '/') :
    splitAuthority (authority ++ tail) = (authority, tail) := by
  have hall : ∀ c ∈ authority, decide (c ≠ '/') = true := fun c hc =>
    decide_eq_true (ne_of_mem_of_not_mem hc hauthority)
  have hstop : tail.takeWhile (· ≠ '/') = [] ∧ tail.dropWhile (· ≠ '/') = tail := by
    cases tail with
    | nil => exact ⟨rfl, rfl⟩
    | cons c rest => simp [htail c rfl]
  rw [splitAuthority, List.span_eq_takeWhile_dropWhile, List.takeWhile_append_of_pos hall,
    List.dropWhile_append_of_pos hall, hstop.1, hstop.2, List.append_nil]

/-- Only the authority is masked: what stands behind the next slash is shown as it is. -/
theorem mask_append {scheme authority tail : List Char} (hscheme : ':' ∉ scheme)
    (hauthority : '/' ∉ authority) (htail : ∀ c ∈ tail.head?, c = '/') :
    mask (scheme ++ "://".toList ++ (authority ++ tail)) =
      scheme ++ "://".toList ++ maskAuthority authority ++ tail := by
  have hcut : Text.cut? "://".toList (scheme ++ "://".toList ++ (authority ++ tail)) =
      some (scheme, authority ++ tail) := Text.cut?_append_of_not_mem hscheme
  rw [mask, hcut]
  simp only [splitAuthority_append hauthority htail]

theorem maskAuthority_append {user password host : List Char} (huser : ':' ∉ user)
    (hhost : '@' ∉ host) :
    maskAuthority (user ++ ':' :: password ++ '@' :: host) =
      user ++ ':' :: asterisks ++ '@' :: host := by
  have hlast : Text.cutLast? '@' (user ++ ':' :: password ++ '@' :: host) =
      some (user ++ ':' :: password, host) := Text.cutLast?_append_of_not_mem hhost
  have hfirst : Text.cut? [':'] (user ++ ':' :: password) = some (user, password) := by
    rw [List.append_cons]
    exact Text.cut?_append_of_not_mem huser
  rw [maskAuthority, hlast]
  simp only [hfirst]

/-! ## Passwords -/

/-- An address up to the password in its authority, and from there on. -/
structure Login where
  scheme : List Char
  user : List Char
  host : List Char
  tail : List Char
  colon_not_mem_scheme : ':' ∉ scheme
  colon_not_mem_user : ':' ∉ user
  slash_not_mem_user : '/' ∉ user
  slash_not_mem_host : '/' ∉ host
  at_not_mem_host : '@' ∉ host
  tail_slash : ∀ c ∈ tail.head?, c = '/'

abbrev Password := { password : List Char // '/' ∉ password }

def Login.address (l : Login) (password : List Char) : List Char :=
  l.scheme ++ "://".toList ++ (l.user ++ ':' :: password ++ '@' :: l.host ++ l.tail)

theorem Login.mask_address (l : Login) (p : Password) :
    mask (l.address p) = l.address asterisks := by
  have hauthority : '/' ∉ l.user ++ ':' :: p.val ++ '@' :: l.host := by
    simp [l.slash_not_mem_user, p.property, l.slash_not_mem_host]
  rw [address, mask_append l.colon_not_mem_scheme hauthority l.tail_slash,
    maskAuthority_append l.colon_not_mem_user l.at_not_mem_host, address]
  simp only [List.append_assoc]

/-- A password in the authority is masked, whatever it is. So any two passwords leave the same
descriptions of the settings and the same reports, and nothing that the service does depends on
them. -/
theorem password_never_shows (l : Login) (p q : Password) :
    mask (l.address p) = l.address asterisks ∧ mask (l.address p) = mask (l.address q) ∧
    (∀ s : StoreSettings, (s.withUrl (l.address p)).describe = (s.withUrl (l.address q)).describe) ∧
    (∀ s : Settings, (s.withUrl (l.address p)).describe = (s.withUrl (l.address q)).describe) ∧
    (∀ {δ : Type} (s : StoreSettings) (site : Archive.Site δ),
      Archive.openDatabase (s.withUrl (l.address p)) site =
        Archive.openDatabase (s.withUrl (l.address q)) site) ∧
    ∀ {δ : Type} (s : Settings) (around : Surroundings δ),
      Service.run (s.withUrl (l.address p)) around =
        Service.run (s.withUrl (l.address q)) around := by
  have hmask : mask (l.address p) = mask (l.address q) := by rw [l.mask_address p, l.mask_address q]
  exact ⟨l.mask_address p, hmask, fun s => StoreSettings.describe_withUrl_inj.mpr hmask,
    fun s => describe_withUrl_inj.mpr hmask,
    fun s site => Archive.openDatabase_withUrl hmask s site,
    fun s around => Service.run_withUrl hmask s around⟩

/-- A password with both marks in it is masked, for a user with an at sign in its name. -/
theorem password_never_shows_marks :
    mask "postgres://a@b:p@s:s@db/calllog?x=y@z".toList =
        "postgres://a@b:****@db/calllog?x=y@z".toList ∧
      ∀ s : Settings, (s.withUrl "postgres://a@b:p@s:s@db/calllog?x=y@z".toList).describe =
        (s.withUrl "postgres://a@b:@db/calllog?x=y@z".toList).describe := by
  let l : Login := ⟨"postgres".toList, "a@b".toList, "db".toList, "/calllog?x=y@z".toList,
    by decide, by decide, by decide, by decide, by decide, by simp⟩
  obtain ⟨hmask, -, -, hdescribe, -⟩ :=
    password_never_shows l ⟨"p@s:s".toList, by decide⟩ ⟨[], by decide⟩
  exact ⟨hmask, hdescribe⟩

/-! ## Queries -/

/-- An address up to the password in its query, and from there on. -/
structure QueryLogin where
  scheme : List Char
  authority : List Char
  database : List Char
  before : List Char
  after : List Char
  colon_not_mem_scheme : ':' ∉ scheme
  slash_not_mem_authority : '/' ∉ authority

def QueryLogin.tail (l : QueryLogin) (password : List Char) : List Char :=
  '/' :: l.database ++ '?' :: l.before ++ "password=".toList ++ password ++ l.after

def QueryLogin.address (l : QueryLogin) (password : List Char) : List Char :=
  l.scheme ++ "://".toList ++ (l.authority ++ l.tail password)

theorem QueryLogin.mask_address (l : QueryLogin) (password : List Char) :
    mask (l.address password) =
      l.scheme ++ "://".toList ++ maskAuthority l.authority ++ l.tail password := by
  refine mask_append l.colon_not_mem_scheme l.slash_not_mem_authority ?_
  rintro c ⟨⟩
  rfl

theorem QueryLogin.mask_address_inj {l : QueryLogin} {p q : List Char} :
    mask (l.address p) = mask (l.address q) ↔ p = q := by
  rw [l.mask_address, l.mask_address, List.append_right_inj, tail, tail, List.append_left_inj,
    List.append_right_inj]

/-- A password in the query is shown as it is. So two of them leave the same descriptions, and the
same lines of a report, only if they are one. -/
theorem query_password_shown (l : QueryLogin) (p q : List Char) :
    mask (l.address p) =
        l.scheme ++ "://".toList ++ maskAuthority l.authority ++ l.tail p ∧
    (∀ s : StoreSettings,
      (s.withUrl (l.address p)).describe = (s.withUrl (l.address q)).describe ↔ p = q) ∧
    (∀ (s : Settings) (reveal : Bool),
      (Report.Event.settingsLoaded (.ofList (s.withUrl (l.address p)).describe)).line reveal =
        (Report.Event.settingsLoaded (.ofList (s.withUrl (l.address q)).describe)).line reveal ↔
      p = q) ∧
    ∀ reveal : Bool,
      (Report.Event.poolAddress (.ofList (mask (l.address p)))).line reveal =
        (Report.Event.poolAddress (.ofList (mask (l.address q)))).line reveal ↔ p = q := by
  refine ⟨l.mask_address p, fun s => ?_, fun s reveal => ?_, fun reveal => ?_⟩
  · rw [StoreSettings.describe_withUrl_inj, QueryLogin.mask_address_inj]
  · rw [Report.Event.line_settingsLoaded_inj, describe_withUrl_inj, QueryLogin.mask_address_inj]
  · rw [Report.Event.line_poolAddress_inj, QueryLogin.mask_address_inj]

/-- Two passwords in the query leave different descriptions. -/
theorem query_passwords_told_apart :
    (StoreSettings.withUrl {} "postgres://app@db/calllog?password=hunter2".toList).describe ≠
      (StoreSettings.withUrl {} "postgres://app@db/calllog?password=s3cret".toList).describe := by
  let l : QueryLogin := ⟨"postgres".toList, "app@db".toList, "calllog".toList, [], [], by decide,
    by decide⟩
  obtain ⟨-, hdescribe, -⟩ := query_password_shown l "hunter2".toList "s3cret".toList
  exact fun h => absurd ((hdescribe {}).mp h) (by decide)

theorem query_password_in_clear :
    let shown := "postgres://app@db/calllog?password=hunter2".toList
    let other := "postgres://app@db/calllog?password=s3cret".toList
    mask shown = shown ∧
      (∀ s : StoreSettings, (s.withUrl shown).describe ≠ (s.withUrl other).describe) ∧
      (∀ s : Settings, (s.withUrl shown).describe ≠ (s.withUrl other).describe) ∧
      ∀ reveal : Bool,
        (Report.Event.poolAddress (.ofList (mask shown))).line reveal ≠
          (Report.Event.poolAddress (.ofList (mask other))).line reveal := by
  intro shown other
  have hdiffer : mask shown ≠ mask other := by decide
  exact ⟨by decide, fun s h => hdiffer (StoreSettings.describe_withUrl_inj.mp h),
    fun s h => hdiffer (describe_withUrl_inj.mp h),
    fun reveal h => hdiffer (Report.Event.line_poolAddress_inj.mp h)⟩

end Settings
end CallHistory
