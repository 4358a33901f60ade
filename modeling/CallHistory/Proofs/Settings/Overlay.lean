import CallHistory.Proofs.Settings.Places
import CallHistory.Proofs.Settings.Starting

/-! # Variables lie on a file

A variable of the environment gives one setting. It is put into the tree of the file at the place of
that setting, in a section that is a table or is not there yet, and leaves what stands in all other
places. So settings are overlaid one by one: a variable never sets back the other settings of its
section.
-/

namespace CallHistory

/-! ## Variables -/

namespace Setting

def key (k : Setting) : String := k.part ++ "." ++ k.name

/-- A variable with the name of a setting, in letters of any case, gives it. -/
def IsNamed (k : Setting) (name : String) : Prop :=
  Settings.Tree.lowerName name = "calllog__" ++ k.part ++ "__" ++ k.name

instance (k : Setting) (name : String) : Decidable (k.IsNamed name) :=
  inferInstanceAs (Decidable (_ = _))

theorem IsNamed.key?_eq {k : Setting} {name : String} (h : k.IsNamed name) :
    Settings.Layers.key? name = some k.key := by
  have hlower : name.toList.map Text.lower = ("calllog__" ++ k.part ++ "__" ++ k.name).toList := by
    rw [← h, Settings.Tree.lowerName, String.toList_ofList]
  rw [Settings.Layers.key?, hlower]
  cases k <;> decide

theorem ofKey_key (k : Setting) :
    Settings.Path.ofKey k.key = [.name k.part, .name k.name] := by
  cases k <;> decide

theorem IsNamed.unique {k l : Setting} {name : String} (hk : k.IsNamed name) (hl : l.IsNamed name) :
    k = l := by
  have hkey : k.key = l.key := Option.some.inj (hk.key?_eq.symm.trans hl.key?_eq)
  have hpath := congrArg Settings.Path.ofKey hkey
  rw [ofKey_key, ofKey_key] at hpath
  simp only [List.cons.injEq, Settings.Tree.Step.name.injEq] at hpath
  exact name_injective hpath.2.1

theorem lowerName_name (k : Setting) : Settings.Tree.lowerName k.name = k.name := by
  cases k <;> decide

end Setting

namespace Settings

namespace Tree

@[simp] theorem members_table (members : List (String × Tree)) :
    (table members).members = members := rfl

theorem lookup_map_at (members : List (String × Tree)) (name other : String) (f : Tree → Tree) :
    (members.map fun m => if m.1 = name then (name, f m.2) else m).lookup other =
      if other = name then (members.lookup other).map f else members.lookup other := by
  induction members with
  | nil => simp
  | cons m rest ih =>
    rw [List.map_cons]
    by_cases hm : m.1 = name
    · rw [if_pos hm, List.lookup_cons, List.lookup_cons, hm, ih]
      by_cases hother : other = name
      · simp [hother]
      · simp [hother, beq_false_of_ne hother]
    · rw [if_neg hm, List.lookup_cons, List.lookup_cons, ih]
      by_cases hfirst : other = m.1
      · simp [hfirst, hm]
      · simp [beq_false_of_ne hfirst]

theorem at?_change (t : Tree) (name other : String) (f : Tree → Tree) :
    (t.change name f).at? other =
      if other = name then some (f ((t.at? name).getD absent)) else t.at? other := by
  unfold change
  by_cases hother : other = name
  · subst hother
    rw [if_pos rfl]
    cases hold : t.at? other with
    | none =>
      rw [at?] at hold
      simp [at?, List.lookup_append, hold]
    | some v =>
      rw [at?] at hold
      simp [at?, lookup_map_at, hold]
  · rw [if_neg hother]
    cases t.at? name with
    | none =>
      rw [at?, members_table, List.lookup_append, List.lookup_cons, beq_false_of_ne hother]
      exact Option.or_none
    | some v => simp [at?, lookup_map_at, hother]

theorem isTable_change (t : Tree) (name : String) (f : Tree → Tree) :
    (t.change name f).isTable = true := by
  unfold change
  split <;> rfl

def lay (t : Tree) (k : Setting) (s : String) : Tree :=
  t.change k.part fun _ => ((t.at? k.part).getD absent).change k.name fun _ => .text s

theorem lay?_key (t : Tree) (k : Setting) (s : String) :
    Layers.lay? t (k.key, .text s) = some (t.lay k s) := by
  have hput (u : Tree) : put k.name (.text s) u = u.change k.name fun _ => .text s := by
    simp [put, k.lowerName_name]
  rw [Layers.lay?, k.ofKey_key, lay]
  exact congrArg (fun u => some (t.change k.part fun _ => u)) (hput _)

theorem held?_lay (t : Tree) (k l : Setting) (s : String) :
    (t.lay k s).held? l = if l = k then some (.text s) else t.held? l := by
  rw [held?, lay, at?_change]
  by_cases hpart : l.part = k.part
  · rw [if_pos hpart, Option.getD_some, at?_change]
    by_cases hname : l.name = k.name
    · rw [if_pos hname, if_pos (Setting.name_injective hname)]
    · rw [if_neg hname, if_neg fun h => hname (congrArg Setting.name h), held?, hpart]
  · rw [if_neg hpart, if_neg fun h => hpart (congrArg Setting.part h), held?]

theorem HasTables.lay {t : Tree} (h : t.HasTables) (k : Setting) (s : String) :
    (t.lay k s).HasTables := by
  intro name hname
  rw [Tree.lay, at?_change]
  split
  · exact isTable_change _ _ _
  · exact h name hname

end Tree

def aboutSettings (environment : List (String × String)) : List (String × String) :=
  environment.filter fun v => (Layers.key? v.1).isSome

/-- Variables with different names are laid on a tree each at the place of its own setting. -/
theorem foldlM_variables {environment : List (String × String)}
    (hdistinct : ((aboutSettings environment).map fun v => Tree.lowerName v.1).Nodup)
    (hnamed : ∀ v ∈ aboutSettings environment, ∃ k : Setting, k.IsNamed v.1) (t : Tree) :
    ∃ laid, (Layers.ofEnvironment environment).foldlM Layers.lay? t = some laid ∧
      (∀ k : Setting, ∀ v ∈ environment, k.IsNamed v.1 → laid.held? k = some (.text v.2)) ∧
      (∀ k : Setting, (∀ v ∈ environment, ¬k.IsNamed v.1) → laid.held? k = t.held? k) ∧
      (t.HasTables → laid.HasTables) := by
  induction environment generalizing t with
  | nil => exact ⟨t, rfl, nofun, fun _ _ => rfl, id⟩
  | cons v rest ih =>
    rcases v with ⟨name, s⟩
    cases hkey : Layers.key? name with
    | none =>
      have hother (k : Setting) : ¬k.IsNamed name := fun h => by
        rw [h.key?_eq] at hkey
        cases hkey
      have habout : aboutSettings ((name, s) :: rest) = aboutSettings rest := by
        simp [aboutSettings, hkey]
      rw [habout] at hdistinct hnamed
      obtain ⟨laid, hlaid, hgiven, hkept, htables⟩ := ih hdistinct hnamed t
      refine ⟨laid, ?_, ?_, ?_, htables⟩
      · simpa [Layers.ofEnvironment, hkey] using hlaid
      · intro k v hv hk
        rcases List.mem_cons.mp hv with rfl | hrest
        · exact absurd hk (hother k)
        · exact hgiven k v hrest hk
      · exact fun k hk => hkept k (List.forall_mem_cons.mp hk).2
    | some key =>
      have habout : aboutSettings ((name, s) :: rest) = (name, s) :: aboutSettings rest := by
        simp [aboutSettings, hkey]
      rw [habout] at hdistinct hnamed
      rw [List.map_cons, List.nodup_cons] at hdistinct
      obtain ⟨⟨k, hk⟩, hnamed⟩ := List.forall_mem_cons.mp hnamed
      obtain rfl : k.key = key := Option.some.inj (hk.key?_eq.symm.trans hkey)
      obtain ⟨laid, hlaid, hgiven, hkept, htables⟩ := ih hdistinct.2 hnamed (t.lay k s)
      -- The names still to come are not those of the setting that has been given.
      have honce : ∀ v ∈ rest, ¬k.IsNamed v.1 := fun v hv hagain => by
        have hmem : v ∈ aboutSettings rest :=
          List.mem_filter.mpr ⟨hv, by rw [hagain.key?_eq]; rfl⟩
        exact hdistinct.1 (List.mem_map.mpr ⟨v, hmem, hagain.trans hk.symm⟩)
      refine ⟨laid, ?_, ?_, ?_, fun h => htables (h.lay k s)⟩
      · simpa [Layers.ofEnvironment, hkey, Tree.lay?_key] using hlaid
      · intro l v hv hl
        rcases List.mem_cons.mp hv with rfl | hrest
        · obtain rfl : l = k := hl.unique hk
          rw [hkept l honce, Tree.held?_lay, if_pos rfl]
        · exact hgiven l v hrest hl
      · intro l hl
        obtain ⟨hne, hrest⟩ := List.forall_mem_cons.mp hl
        have hother : l ≠ k := by
          rintro rfl
          exact hne hk
        rw [hkept l hrest, Tree.held?_lay, if_neg hother]

/-! ## Loaded settings -/

theorem eq_of_check {read : Option Settings} {s : Settings} (h : check read = .ok s) :
    read = some s := by
  cases read with
  | none => cases h
  | some t =>
    simp only [check, validate] at h
    split at h
    · cases h
    · rename_i checked hchecked
      split at hchecked
      · cases hchecked
      · split at hchecked
        · cases hchecked
        · cases hchecked
          cases h
          rfl

/-- Settings are loaded if they are what the tree says about each setting, and pass the check. -/
theorem load_eq_ok_iff {file : File} {environment : List (String × String)} {t : Tree}
    (hlayered : layered file environment = .ok t.members) (htables : t.HasTables) {s : Settings} :
    load file environment = .ok s ↔
      (∀ k, t.value? k = some (k.get s)) ∧ s.writer.workers ≠ 0 ∧ s.writer.capacity ≠ 0 := by
  rw [load, hlayered, ← Tree.settings?_eq_some_iff htables]
  constructor
  · exact fun h => ⟨eq_of_check h, counts_of_check h⟩
  · rintro ⟨hread, hworkers, hcapacity⟩
    exact (congrArg check hread).trans (check_of_counts hworkers hcapacity)

theorem layered_variables {file : File} {members : List (String × Tree)}
    (h : layered file [] = .ok members) (environment : List (String × String)) :
    ∃ t : Tree, t.members = members ∧
      layered file environment =
        match (Layers.ofEnvironment environment).foldlM Layers.lay? t with
        | none => .error .crashed
        | some laid => .ok laid.members := by
  unfold layered at h ⊢
  simp only at h ⊢
  split at h
  · cases h
  · rw [show Layers.ofEnvironment [] = [] from rfl, List.append_nil] at h
    split at h
    · cases h
    · rename_i layer _ _ t ht
      cases h
      refine ⟨t, rfl, ?_⟩
      rw [List.foldlM_append, ht]
      rfl

/-- The tree that a file makes without variables on it. -/
def File.tree (file : File) : Tree :=
  match layered file [] with
  | .ok members => .table members
  | .error _ => .absent

section

variable {environment : List (String × String)}
  (hdistinct : ((aboutSettings environment).map fun v => Tree.lowerName v.1).Nodup)
  (hreadable : ∀ v ∈ aboutSettings environment,
    ∃ k : Setting, k.IsNamed v.1 ∧ (k.read? (.text v.2)).isSome = true)

include hdistinct hreadable

/-- Readable variables change what a tree says about the settings they give, and about no other. -/
theorem exists_overlaid {t : Tree} {base : Settings} (hbase : ∀ k, t.value? k = some (k.get base)) :
    ∃ laid s, (Layers.ofEnvironment environment).foldlM Layers.lay? t = some laid ∧
      (t.HasTables → laid.HasTables) ∧ (∀ k, laid.value? k = some (k.get s)) ∧
      (∀ k : Setting, ∀ v ∈ environment, k.IsNamed v.1 → k.read? (.text v.2) = some (k.get s)) ∧
      ∀ k : Setting, (∀ v ∈ environment, ¬k.IsNamed v.1) → k.get s = k.get base := by
  obtain ⟨laid, hlaid, hgiven, hkept, htables⟩ :=
    foldlM_variables hdistinct (fun v hv => (hreadable v hv).imp fun _ h => h.1) t
  have hnamed (k : Setting) (v : String × String) (hv : v ∈ environment) (hk : k.IsNamed v.1) :
      laid.value? k = k.read? (.text v.2) ∧ (laid.value? k).isSome = true := by
    have hvalue : laid.value? k = k.read? (.text v.2) := Tree.value?_of_held (hgiven k v hv hk)
    have habout : v ∈ aboutSettings environment :=
      List.mem_filter.mpr ⟨hv, by rw [hk.key?_eq]; rfl⟩
    obtain ⟨l, hl, hread⟩ := hreadable v habout
    obtain rfl := hk.unique hl
    exact ⟨hvalue, hvalue ▸ hread⟩
  have hother (k : Setting) (hk : ∀ v ∈ environment, ¬k.IsNamed v.1) :
      laid.value? k = some (k.get base) :=
    (Tree.value?_congr (hkept k hk)).trans (hbase k)
  have hsome (k : Setting) : ∃ x, laid.value? k = some x := by
    by_cases hk : ∃ v ∈ environment, k.IsNamed v.1
    · obtain ⟨v, hv, hk⟩ := hk
      exact Option.isSome_iff_exists.mp (hnamed k v hv hk).2
    · exact ⟨_, hother k fun v hv h => hk ⟨v, hv, h⟩⟩
  choose value hvalue using hsome
  refine ⟨laid, Setting.collect value, hlaid, htables, ?_, ?_, ?_⟩
  · exact fun k => by rw [hvalue, Setting.get_collect]
  · exact fun k v hv hk => by rw [← (hnamed k v hv hk).1, hvalue, Setting.get_collect]
  · intro k hk
    rw [Setting.get_collect]
    exact Option.some.inj ((hvalue k).symm.trans (hother k hk))

/-- Variables that can be read, with names that differ by more than the case of letters, give the
settings they name. All other settings are those of the file, or what holds when nothing is set. -/
theorem variables_lie_on_file {file : File} {base : Settings} (hbase : load file [] = .ok base)
    (htables : file.tree.HasTables)
    (hworkers : ∀ v ∈ environment, Setting.workers.IsNamed v.1 →
      Setting.workers.read? (.text v.2) ≠ some (0 : UInt64))
    (hcapacity : ∀ v ∈ environment, Setting.capacity.IsNamed v.1 →
      Setting.capacity.read? (.text v.2) ≠ some (0 : UInt64)) :
    ∃ s, load file environment = .ok s ∧
      (∀ k : Setting, ∀ v ∈ environment, k.IsNamed v.1 → k.read? (.text v.2) = some (k.get s)) ∧
      (∀ k : Setting, (∀ v ∈ environment, ¬k.IsNamed v.1) → k.get s = k.get base) ∧
      ∀ k : Setting, match file.tree.held? k with
        | some v => k.read? v = some (k.get base)
        | none => k.get base = k.get {} := by
  obtain ⟨members, hmembers⟩ : ∃ members, layered file [] = .ok members := by
    unfold load at hbase
    split at hbase
    · cases hbase
    · exact ⟨_, ‹_›⟩
  obtain ⟨t, rfl, hlayered⟩ := layered_variables hmembers environment
  have htree : file.tree = .table t.members := by rw [File.tree, hmembers]
  have hplaces : t.HasTables := by
    rw [htree] at htables
    exact htables
  obtain ⟨hvalues, hbaseWorkers, hbaseCapacity⟩ := (load_eq_ok_iff hmembers hplaces).mp hbase
  obtain ⟨laid, s, hlaid, hlaidTables, hlaidValues, hgiven, hkept⟩ :=
    exists_overlaid hdistinct hreadable hvalues
  rw [hlaid] at hlayered
  have hcount (k : Setting) {zero : k.Value} (hfile : k.get base ≠ zero)
      (hgives : ∀ v ∈ environment, k.IsNamed v.1 → k.read? (.text v.2) ≠ some zero) :
      k.get s ≠ zero := by
    by_cases hk : ∃ v ∈ environment, k.IsNamed v.1
    · obtain ⟨v, hv, hk⟩ := hk
      exact fun hzero => hgives v hv hk (hzero ▸ hgiven k v hv hk)
    · rwa [hkept k fun v hv h => hk ⟨v, hv, h⟩]
  refine ⟨s, ?_, hgiven, hkept, fun k => ?_⟩
  · exact (load_eq_ok_iff hlayered (hlaidTables hplaces)).mpr ⟨hlaidValues,
      hcount .workers hbaseWorkers hworkers, hcount .capacity hbaseCapacity hcapacity⟩
  · have hheld : file.tree.held? k = t.held? k := by rw [htree]; rfl
    rw [hheld]
    split
    · rename_i v hv
      rw [← Tree.value?_of_held hv, hvalues k]
    · rename_i hv
      exact Option.some.inj ((hvalues k).symm.trans (Tree.value?_of_not_held hv))

end

/-- Some settings of three sections are given anew, by names in letters of any case, and the others stay
what they are. A text is taken as it stands, also if it could be read as a number. -/
theorem variables_lie_on_file_siblings :
    let file := File.holding
      "[writer]\nworkers = 3\nqueue_capacity = 9\n[store]\nmax_connections = 2\n[metrics]\n".toList
    let environment := [("calllog__Writer__QUEUE_CAPACITY", "16"), ("PATH", "/bin"),
      ("CALLLOG__STORE__KIND", "File"), ("CALLLOG__store__Path", "007"),
      ("CALLLOG__STORE__DATABASE_URL", "postgres://app:x@db/calls"),
      ("CALLLOG__LOGGING__FILTER", "warn,a=Off ")]
    load file [] = .ok { writer := ⟨3, 9⟩, store := { connections := 2 } } ∧
      load file environment = .ok
        { writer := ⟨3, 16⟩
          store := ⟨.file, "007", "postgres://app:x@db/calls", 2⟩
          logging := { filter := "warn,a=Off " } } := by
  intro file environment
  have habout : aboutSettings environment =
      [("calllog__Writer__QUEUE_CAPACITY", "16"), ("CALLLOG__STORE__KIND", "File"),
        ("CALLLOG__store__Path", "007"),
        ("CALLLOG__STORE__DATABASE_URL", "postgres://app:x@db/calls"),
        ("CALLLOG__LOGGING__FILTER", "warn,a=Off ")] := by decide
  have hdistinct : ((aboutSettings environment).map fun v => Tree.lowerName v.1).Nodup := by decide
  have hbase : load file [] = .ok { writer := ⟨3, 9⟩, store := { connections := 2 } } := by
    decide +kernel
  have hreadable : ∀ v ∈ aboutSettings environment,
      ∃ k : Setting, k.IsNamed v.1 ∧ (k.read? (.text v.2)).isSome = true := by
    rw [habout]
    simp only [List.forall_mem_cons]
    exact ⟨⟨.capacity, by decide, by decide⟩, ⟨.kind, by decide, by decide⟩,
      ⟨.path, by decide, rfl⟩, ⟨.url, by decide, rfl⟩, ⟨.filter, by decide, rfl⟩, nofun⟩
  obtain ⟨s, hload, hgiven, hkept, -⟩ := variables_lie_on_file hdistinct hreadable hbase
    (by decide +kernel) (by decide) (by decide)
  have hgives (k : Setting) (name text : String) {x : k.Value} (hmem : (name, text) ∈ environment)
      (hname : k.IsNamed name) (hread : k.read? (.text text) = some x) : k.get s = x :=
    Option.some.inj ((hgiven k _ hmem hname).symm.trans hread)
  refine ⟨hbase, hload.trans (congrArg Except.ok (Setting.eq_of_get fun k => ?_))⟩
  cases k with
  | capacity =>
    exact hgives _ "calllog__Writer__QUEUE_CAPACITY" "16" (by decide) (by decide) (by decide)
  | kind => exact hgives _ "CALLLOG__STORE__KIND" "File" (by decide) (by decide) (by decide)
  | path => exact hgives _ "CALLLOG__store__Path" "007" (by decide) (by decide) rfl
  | url => exact hgives _ "CALLLOG__STORE__DATABASE_URL" _ (by decide) (by decide) rfl
  | filter => exact hgives _ "CALLLOG__LOGGING__FILTER" _ (by decide) (by decide) rfl
  | allowEmergency => exact hkept .allowEmergency (by decide)
  | emergency => exact hkept .emergency (by decide)
  | workers => exact hkept .workers (by decide)
  | connections => exact hkept .connections (by decide)
  | reveal => exact hkept .reveal (by decide)
  | listen => exact hkept .listen (by decide)

end Settings
end CallHistory
