import CallHistory.Proofs.Settings.Layering
import CallHistory.Settings.Exact

/-! # Two readers of a document

What is read of a value of its very type is read of its tree as well, where values are converted. So
a document with plain names has the same settings as a document and as a file without variables on
top of it. A section that is a point in time is the exception: it is a section without settings to
the one reader and a text to the other, and a text is no section.
-/

namespace CallHistory.Settings

/-- What one reading gives, another gives as well. -/
def Follows {α : Type} (x y : Option α) : Prop := ∀ a, x = some a → y = some a

theorem Follows.refl {α : Type} (x : Option α) : Follows x x := fun _ h => h

theorem Follows.bind {α β : Type} {x y : Option α} {f g : α → Option β} (h : Follows x y)
    (hfg : ∀ a, Follows (f a) (g a)) : Follows (x >>= f) (y >>= g) := by
  intro b hb
  obtain ⟨a, ha, hb⟩ := Option.bind_eq_some_iff.mp hb
  exact Option.bind_eq_some_iff.mpr ⟨a, h a ha, hfg a b hb⟩

theorem Follows.map {α β : Type} {x y : Option α} (h : Follows x y) (f : α → β) :
    Follows (x.map f) (y.map f) := by
  intro b hb
  obtain ⟨a, ha, rfl⟩ := Option.map_eq_some_iff.mp hb
  exact Option.map_eq_some_iff.mpr ⟨a, h a ha, rfl⟩

/-- What is read of a value is read of its tree. -/
def Carries {α : Type} (read : Toml → Option α) (read' : Tree → Option α) : Prop :=
  ∀ ⦃v t⦄, Tree.ofToml? v = some t → Follows (read v) (read' t)

theorem Carries.map {α β : Type} {read : Toml → Option α} {read' : Tree → Option α}
    (h : Carries read read') (f : α → β) :
    Carries (fun v => (read v).map f) fun t => (read' t).map f :=
  fun _ _ ht => (h ht).map f

/-! ## Single values -/

theorem carries_flag : Carries Exact.reader.flag Layers.reader.flag := by
  intro v t ht b hb
  cases v with
  | boolean b' =>
    cases ht
    exact hb
  | _ => cases hb

theorem carries_text : Carries Exact.reader.text Layers.reader.text := by
  intro v t ht s hs
  cases v with
  | string s' =>
    cases ht
    exact hs
  | _ => cases hs

theorem carries_count (most : Nat) :
    Carries (Exact.reader.count most) (Layers.reader.count most) := by
  intro v t ht n hn
  cases v with
  | integer i =>
    cases ht
    obtain ⟨⟨hnonneg, hmost⟩, hn⟩ := Option.ite_none_right_eq_some.mp hn
    cases hn
    have hcount : Layers.count? (.integer i) = some i.toInt.toNat := if_pos hnonneg
    have hle : i.toInt.toNat ≤ most := Int.toNat_le.mpr hmost
    change (Layers.count? (.integer i)).bind _ = _
    rw [hcount, Option.bind_some, if_pos hle]
  | _ => cases hn

theorem ofKey?_lowerName {s : String} {kind : StoreKind} (h : StoreKind.ofKey? s = some kind) :
    StoreKind.ofKey? (Tree.lowerName s) = some kind := by
  have hkey : kind.key = s := by simpa using List.find?_some h
  have hlower : Tree.lowerName kind.key = kind.key := by cases kind <;> decide
  rwa [← hkey, hlower, hkey]

theorem exists_table_of_singleton {name : String} {v : Toml} {t : Tree}
    (hname : name ≠ Moment.name) (ht : Tree.ofToml? (.table [(name, v)]) = some t) :
    ∃ u, t = .table [(name, u)] := by
  have hmoment : Moment.isMoment [(name, v)] = false := by simpa [Moment.isMoment] using hname
  rw [Tree.ofToml?, hmoment] at ht
  obtain ⟨layer, hlayer, rfl⟩ := Option.map_eq_some_iff.mp ht
  obtain ⟨u, -, hlayer⟩ := Option.bind_eq_some_iff.mp hlayer
  cases hlayer
  exact ⟨u, rfl⟩

theorem carries_kind : Carries Exact.reader.kind Layers.reader.kind := by
  intro v t ht kind hkind
  -- The kind of a table is its only name, whatever empty value stands under it.
  have htable {name : String} {w : Toml} (hv : v = .table [(name, w)])
      (hkey : StoreKind.ofKey? name = some kind) : Layers.kind? t = some kind := by
    subst hv
    have hname : name ≠ Moment.name := by
      rintro rfl
      exact absurd hkey (by cases kind <;> decide)
    obtain ⟨u, rfl⟩ := exists_table_of_singleton hname ht
    exact ofKey?_lowerName hkey
  change Exact.kind? v = some kind at hkind
  unfold Exact.kind? at hkind
  split at hkind
  · cases ht
    exact ofKey?_lowerName hkind
  · exact htable rfl hkind
  · exact htable rfl hkind
  · cases hkind

theorem carries_mapM {α : Type} {read : Toml → Option α} {read' : Tree → Option α}
    (hread : Carries read read') {items : List Toml} {ts : List Tree}
    (h : List.Forall₂ (fun v t => Tree.ofToml? v = some t) items ts) :
    Follows (items.mapM read) (ts.mapM read') := by
  induction h with
  | nil => exact .refl _
  | cons hv _ ih =>
    rw [List.mapM_cons, List.mapM_cons]
    exact (hread hv).bind fun _ => ih.bind fun _ => .refl _

theorem carries_texts? : Carries Exact.reader.texts? Layers.reader.texts? := by
  intro v t ht
  cases v with
  | array items =>
    obtain ⟨ts, hts, rfl⟩ := Option.map_eq_some_iff.mp ht
    exact carries_mapM carries_text (Tree.forall₂_of_ofItems? hts)
  | _ => nofun

theorem carries_address? : Carries Exact.reader.address? Layers.reader.address? := by
  intro v t ht
  cases v with
  | string s =>
    cases ht
    exact .refl _
  | _ => nofun

/-! ## Sections -/

/-- The values of a section are the trees of the values of another one, in their order. -/
def Section.IsTreeOf : Section Tree → Section Toml → Prop
  | .named layer, .named members =>
    List.Forall₂ (fun m n => m.1 = n.1 ∧ Tree.ofToml? m.2 = some n.2) members layer
  | .listed ts, .listed items => List.Forall₂ (fun v t => Tree.ofToml? v = some t) items ts
  | _, _ => False

theorem lookup_rel {members : List (String × Toml)} {layer : List (String × Tree)}
    (h : List.Forall₂ (fun m n => m.1 = n.1 ∧ Tree.ofToml? m.2 = some n.2) members layer)
    (name : String) :
    Option.Rel (fun v t => Tree.ofToml? v = some t) (members.lookup name) (layer.lookup name) := by
  induction h with
  | nil => exact .none
  | @cons m n members layer hm _ ih =>
    obtain ⟨hname, htree⟩ := hm
    rw [List.lookup_cons, List.lookup_cons, ← hname]
    split
    · exact .some htree
    · exact ih

theorem getElem?_rel {items : List Toml} {ts : List Tree}
    (h : List.Forall₂ (fun v t => Tree.ofToml? v = some t) items ts) (place : Nat) :
    Option.Rel (fun v t => Tree.ofToml? v = some t) items[place]? ts[place]? := by
  induction h generalizing place with
  | nil => exact .none
  | cons hv _ ih =>
    cases place with
    | zero => exact .some hv
    | succ place => exact ih place

namespace Section.IsTreeOf

variable {q : Section Tree} {s : Section Toml} {name : String} {place : Nat}

theorem find? (h : q.IsTreeOf s) (name : String) (place : Nat) :
    Option.Rel (fun v t => Tree.ofToml? v = some t) (s.find? name place) (q.find? name place) := by
  cases q with
  | named layer =>
    cases s with
    | named members => exact lookup_rel h name
    | listed items => exact h.elim
  | listed ts =>
    cases s with
    | named members => exact h.elim
    | listed items => exact getElem?_rel h place

theorem get? {α : Type} (h : q.IsTreeOf s) {read : Toml → Option α} {read' : Tree → Option α}
    (hread : ∀ {v t}, s.find? name place = some v → Tree.ofToml? v = some t →
      Follows (read v) (read' t)) (unset : α) :
    Follows (s.get? name place read unset) (q.get? name place read' unset) := by
  have hrel := h.find? name place
  unfold Section.get?
  generalize s.find? name place = found at hrel hread ⊢
  generalize q.find? name place = found' at hrel ⊢
  cases hrel with
  | none => exact .refl _
  | some htree => exact hread rfl htree

theorem get?_of_carries {α : Type} (h : q.IsTreeOf s) {read : Toml → Option α}
    {read' : Tree → Option α} (hread : Carries read read') (unset : α) :
    Follows (s.get? name place read unset) (q.get? name place read' unset) :=
  h.get? (fun _ ht => hread ht) unset

end Section.IsTreeOf

/-- A value is no point in time, be it written as one or as a table. -/
structure Timeless (v : Toml) : Prop where
  ne_moment (text : String) : v ≠ .moment text
  isMoment_eq_false {members : List (String × Toml)} (h : v = .table members) :
    Moment.isMoment members = false

section

variable {v : Toml} {t : Tree} (hv : Timeless v) (ht : Tree.ofToml? v = some t)

include hv ht

theorem follows_section {β : Type} {f : Section Toml → Option β} {g : Section Tree → Option β}
    (hfg : ∀ {s q}, q.IsTreeOf s → Follows (f s) (g q)) :
    Follows (Exact.reader.part v >>= f) (Layers.reader.part t >>= g) := by
  cases v with
  | moment text => exact absurd rfl (hv.ne_moment text)
  | array items =>
    obtain ⟨ts, hts, rfl⟩ := Option.map_eq_some_iff.mp ht
    have hsection : (Section.listed ts).IsTreeOf (.listed items) := Tree.forall₂_of_ofItems? hts
    exact hfg hsection
  | table members =>
    rw [Tree.ofToml?, hv.isMoment_eq_false rfl] at ht
    obtain ⟨layer, hlayer, rfl⟩ := Option.map_eq_some_iff.mp ht
    have hsection : (Section.named layer).IsTreeOf (.named members) :=
      Tree.forall₂_of_ofMembers? hlayer
    exact hfg hsection
  | _ =>
    intro b hb
    cases hb

theorem history?_follows : Follows (Exact.reader.history? v) (Layers.reader.history? t) :=
  follows_section hv ht fun h =>
    (h.get?_of_carries carries_flag _).bind fun _ =>
    (h.get?_of_carries carries_texts? _).bind fun _ => .refl _

theorem writer?_follows : Follows (Exact.reader.writer? v) (Layers.reader.writer? t) :=
  follows_section hv ht fun h =>
    (h.get?_of_carries ((carries_count _).map _) _).bind fun _ =>
    (h.get?_of_carries ((carries_count _).map _) _).bind fun _ => .refl _

theorem store?_follows : Follows (Exact.reader.store? v) (Layers.reader.store? t) :=
  follows_section hv ht fun h =>
    (h.get?_of_carries carries_kind _).bind fun _ =>
    (h.get?_of_carries carries_text _).bind fun _ =>
    (h.get?_of_carries carries_text _).bind fun _ =>
    (h.get?_of_carries ((carries_count _).map _) _).bind fun _ => .refl _

theorem logging?_follows : Follows (Exact.reader.logging? v) (Layers.reader.logging? t) :=
  follows_section hv ht fun h =>
    (h.get?_of_carries carries_text _).bind fun _ =>
    (h.get?_of_carries carries_flag _).bind fun _ => .refl _

theorem metrics?_follows : Follows (Exact.reader.metrics? v) (Layers.reader.metrics? t) :=
  follows_section hv ht fun h => (h.get?_of_carries carries_address? _).bind fun _ => .refl _

end

/-! ## Documents -/

def sectionNames : List String := ["call_log", "writer", "store", "logging", "metrics"]

theorem settings?_follows {members : List (String × Toml)} {layer : List (String × Tree)}
    (hlayer : Tree.ofMembers? members = some layer)
    (htimeless : ∀ name ∈ sectionNames, ∀ v, members.lookup name = some v → Timeless v) :
    Follows (Exact.reader.settings? members) (Layers.reader.settings? layer) := by
  have h : (Section.named layer).IsTreeOf (.named members) := Tree.forall₂_of_ofMembers? hlayer
  have hsection {name : String} {place : Nat} {v : Toml} (hname : name ∈ sectionNames)
      (hv : (Section.named members).find? name place = some v) : Timeless v :=
    htimeless name hname v hv
  exact (h.get? (fun hv ht => history?_follows (hsection (by decide) hv) ht) _).bind fun _ =>
    (h.get? (fun hv ht => writer?_follows (hsection (by decide) hv) ht) _).bind fun _ =>
    (h.get? (fun hv ht => store?_follows (hsection (by decide) hv) ht) _).bind fun _ =>
    (h.get? (fun hv ht => logging?_follows (hsection (by decide) hv) ht) _).bind fun _ =>
    (h.get? (fun hv ht => metrics?_follows (hsection (by decide) hv) ht) _).bind fun _ => .refl _

theorem check_follows {x y : Option Settings} (h : Follows x y) {answer : Except LoadError Settings}
    (hx : check x = answer) (hread : answer ≠ .error .unreadable) : check y = answer := by
  cases x with
  | none => exact absurd hx.symm hread
  | some s =>
    rw [h s rfl]
    exact hx

theorem Section.get?_of_lookup {τ α : Type} {layer : List (String × τ)} {name : String} {v : τ}
    (h : layer.lookup name = some v) (place : Nat) (read : τ → Option α) (unset : α) :
    (Section.named layer).get? name place read unset = read v := by
  rw [get?, find?, h]

theorem settings?_eq_none {layer : List (String × Tree)} {name text : String}
    (hname : name ∈ sectionNames) (h : layer.lookup name = some (.text text)) :
    Layers.reader.settings? layer = none := by
  refine Option.eq_none_iff_forall_ne_some.mpr fun settings hread => ?_
  obtain ⟨history, hhistory, hread⟩ := Option.bind_eq_some_iff.mp hread
  obtain ⟨writer, hwriter, hread⟩ := Option.bind_eq_some_iff.mp hread
  obtain ⟨store, hstore, hread⟩ := Option.bind_eq_some_iff.mp hread
  obtain ⟨logging, hlogging, hread⟩ := Option.bind_eq_some_iff.mp hread
  obtain ⟨metrics, hmetrics, -⟩ := Option.bind_eq_some_iff.mp hread
  simp only [sectionNames, List.mem_cons, List.not_mem_nil, or_false] at hname
  rcases hname with rfl | rfl | rfl | rfl | rfl
  · cases (Section.get?_of_lookup h ..).symm.trans hhistory
  · cases (Section.get?_of_lookup h ..).symm.trans hwriter
  · cases (Section.get?_of_lookup h ..).symm.trans hstore
  · cases (Section.get?_of_lookup h ..).symm.trans hlogging
  · cases (Section.get?_of_lookup h ..).symm.trans hmetrics

/-- The names in a document are plain, in all of its tables. -/
def PlainNames (document : List Char) : Prop :=
  ∀ members ∈ Toml.parse? document, ∀ name ∈ (Toml.table members).names, IsPlain name

instance (document : List Char) : Decidable (PlainNames document) :=
  inferInstanceAs (Decidable (∀ members ∈ Toml.parse? document,
    ∀ name ∈ (Toml.table members).names, IsPlain name))

def isMoment : Toml → Bool
  | .moment _ => true
  | _ => false

/-- One of the sections of a document is a point in time. -/
def IsDated (document : List Char) : Prop :=
  ∃ members ∈ Toml.parse? document, ∃ name ∈ sectionNames, (members.lookup name).any isMoment

instance (document : List Char) : Decidable (IsDated document) :=
  inferInstanceAs (Decidable (∃ members ∈ Toml.parse? document,
    ∃ name ∈ sectionNames, (members.lookup name).any isMoment))

section

variable {document : List Char} {environment : List (String × String)}
  (hplain : PlainNames document)

include hplain

theorem timeless_of_not_isDated {members : List (String × Toml)}
    (hparse : Toml.parse? document = some members) (hdated : ¬IsDated document) :
    ∀ name ∈ sectionNames, ∀ v, members.lookup name = some v → Timeless v := by
  intro name hname v hv
  have hmem : (name, v) ∈ members := Toml.mem_of_lookup hv
  constructor
  · rintro text rfl
    exact hdated ⟨members, hparse, name, hname, by rw [hv]; rfl⟩
  · rintro others rfl
    refine Tree.isMoment_eq_false (Tree.plain_of_names fun inner hinner => ?_)
    exact hplain members hparse inner (Toml.mem_names_table_iff.mpr ⟨_, hmem, .inr hinner⟩)

variable (hunset : ∀ v ∈ environment, Layers.key? v.1 = none)

include hunset

theorem load_of_not_isDated (hdated : ¬IsDated document) {answer : Except LoadError Settings}
    (hread : Exact.read document = answer) (hreadable : answer ≠ .error .unreadable) :
    load (.holding document) environment = answer := by
  cases hparse : Toml.parse? document with
  | none =>
    rw [Exact.read, hparse] at hread
    exact absurd hread.symm hreadable
  | some members =>
    obtain ⟨layer, hlayer, hlayered⟩ := layered_holding hparse (hplain members hparse) hunset
    have hfollows := settings?_follows hlayer (timeless_of_not_isDated hplain hparse hdated)
    rw [Exact.read, hparse] at hread
    rw [load, hlayered]
    exact check_follows hfollows hread hreadable

theorem load_of_isDated (hdated : IsDated document) :
    load (.holding document) environment = .error .unreadable := by
  obtain ⟨members, hparse, name, hname, hmoment⟩ := hdated
  obtain ⟨layer, hlayer, hlayered⟩ := layered_holding hparse (hplain members hparse) hunset
  -- In the tree, the point in time has become a text.
  have htext : ∃ text, layer.lookup name = some (.text text) := by
    have hrel := lookup_rel (Tree.forall₂_of_ofMembers? hlayer) name
    generalize members.lookup name = found at hmoment hrel
    generalize layer.lookup name = found' at hrel ⊢
    cases hrel with
    | none => cases hmoment
    | @some v t ht =>
      cases v with
      | moment text =>
        cases ht
        exact ⟨text, rfl⟩
      | _ => cases hmoment
  obtain ⟨text, htext⟩ := htext
  rw [load, hlayered]
  exact congrArg check (settings?_eq_none hname htext)

end

/-- A document with plain names has the same settings, or the same fault, on its own and as a file
without variables on top of it, unless a section is a point in time: such a file is unreadable. -/
theorem readers_agree {document : List Char} {environment : List (String × String)}
    (hplain : PlainNames document) (hunset : ∀ v ∈ environment, Layers.key? v.1 = none) :
    (¬IsDated document →
      (∀ s, Exact.read document = .ok s → load (.holding document) environment = .ok s) ∧
        ∀ fault, Exact.read document = .error (.invalid fault) →
          load (.holding document) environment = .error (.invalid fault)) ∧
      (IsDated document → load (.holding document) environment = .error .unreadable) := by
  refine ⟨fun hdated => ⟨fun s hs => ?_, fun fault hfault => ?_⟩, ?_⟩
  · exact load_of_not_isDated hplain hunset hdated hs nofun
  · exact load_of_not_isDated hplain hunset hdated hfault nofun
  · exact load_of_isDated hplain hunset

theorem readers_agree_workers :
    load (.holding "writer.workers = 3\nmetrics.listen = '[::1]:80'\n".toList) [("PATH", "/bin")] =
        .ok { writer.workers := 3, metrics.listen := some (.v6 [0, 0, 0, 0, 0, 0, 0, 1] 0 80) } ∧
      load (.holding "writer.workers = 0\n".toList) [("PATH", "/bin")] =
        .error (.invalid .noWorkers) ∧
      load (.holding "store = 10:30:00\n".toList) [("PATH", "/bin")] = .error .unreadable :=
  ⟨((readers_agree (by decide +kernel) (by decide)).1 (by decide +kernel)).1 _ (by decide +kernel),
    ((readers_agree (by decide +kernel) (by decide)).1 (by decide +kernel)).2 _ (by decide +kernel),
    (readers_agree (by decide +kernel) (by decide)).2 (by decide +kernel)⟩

/-- All settings of a section that is a day are unset to one reader, and the other reads nothing. -/
theorem readers_differ_on_day :
    PlainNames "writer = 1979-05-27\n".toList ∧
      Exact.read "writer = 1979-05-27\n".toList = .ok {} ∧
      load (.holding "writer = 1979-05-27\n".toList) [] = .error .unreadable := by
  decide +kernel

end CallHistory.Settings
