import CallHistory.Toml.Reader

/-! # Names of a document

The lines of a document build a table in which no name stands twice, and so are all tables in it, at
every level. What is kept from line to line is that the draft has this property.
-/

namespace CallHistory.Toml

section

variable {α : Type} {members : List (String × α)} {name : String}

theorem mem_of_lookup {v : α} (h : members.lookup name = some v) : (name, v) ∈ members := by
  obtain ⟨before, after, hmembers, -⟩ := List.lookup_eq_some_iff.mp h
  exact hmembers ▸ List.mem_append_right before List.mem_cons_self

theorem lookup_eq_none_iff_not_mem :
    members.lookup name = none ↔ name ∉ members.map Prod.fst := by
  simp only [List.lookup_eq_none_iff, bne_iff_ne, List.mem_map, not_exists, not_and, ne_comm]

end

/-- No table in a value has a name twice. -/
inductive Distinct : Toml → Prop
  | string (s : String) : Distinct (.string s)
  | integer (n : Int64) : Distinct (.integer n)
  | real (x : Real) : Distinct (.real x)
  | boolean (b : Bool) : Distinct (.boolean b)
  | moment (text : String) : Distinct (.moment text)
  | array {items : List Toml} (hitems : ∀ v ∈ items, Distinct v) : Distinct (.array items)
  | table {members : List (String × Toml)} (hnames : (members.map Prod.fst).Nodup)
      (hmembers : ∀ m ∈ members, Distinct m.2) : Distinct (.table members)

mutual

def names : Toml → List String
  | .array items => itemNames items
  | .table members => memberNames members
  | _ => []

def itemNames : List Toml → List String
  | [] => []
  | v :: rest => names v ++ itemNames rest

def memberNames : List (String × Toml) → List String
  | [] => []
  | (name, v) :: rest => name :: names v ++ memberNames rest

end

section

variable {name : String} {items : List Toml} {members : List (String × Toml)}

theorem mem_names_array_iff : name ∈ (Toml.array items).names ↔ ∃ v ∈ items, name ∈ v.names := by
  rw [names]
  induction items with
  | nil => simp [itemNames]
  | cons v rest ih => simp [itemNames, ih]

theorem mem_names_table_iff :
    name ∈ (Toml.table members).names ↔ ∃ m ∈ members, name = m.1 ∨ name ∈ m.2.names := by
  rw [names]
  induction members with
  | nil => simp [memberNames]
  | cons m rest ih => simp [memberNames, ih, or_assoc]

end

/-! ## Drafts -/

inductive Entry.Distinct : Entry → Prop
  | value {v : Toml} (h : v.Distinct) : Entry.Distinct (.value v)
  | table (implied dotted : Bool) {entries : List (String × Entry)}
      (hnames : (entries.map Prod.fst).Nodup) (hentries : ∀ m ∈ entries, Entry.Distinct m.2) :
      Entry.Distinct (.table implied dotted entries)
  | tables {elements : List (List (String × Entry))}
      (hnames : ∀ entries ∈ elements, (entries.map Prod.fst).Nodup)
      (helements : ∀ entries ∈ elements, ∀ m ∈ entries, Entry.Distinct m.2) :
      Entry.Distinct (.tables elements)

theorem membersOf_eq_map (entries : List (String × Entry)) :
    membersOf entries = entries.map fun m => (m.1, m.2.toToml) := by
  induction entries with
  | nil => rfl
  | cons m rest ih => rw [membersOf, ih, List.map_cons]

theorem tablesOf_eq_map (elements : List (List (String × Entry))) :
    tablesOf elements = elements.map fun entries => .table (membersOf entries) := by
  induction elements with
  | nil => rfl
  | cons entries rest ih => rw [tablesOf, ih, List.map_cons]

theorem distinct_membersOf {entries : List (String × Entry)} (hnames : (entries.map Prod.fst).Nodup)
    (hentries : ∀ m ∈ entries, m.2.toToml.Distinct) :
    (Toml.table (membersOf entries)).Distinct := by
  rw [membersOf_eq_map]
  refine .table ?_ ?_
  · rwa [List.map_map]
  · intro m hm
    obtain ⟨entry, hentry, rfl⟩ := List.mem_map.mp hm
    exact hentries entry hentry

theorem Entry.Distinct.toToml {e : Entry} (h : e.Distinct) : e.toToml.Distinct := by
  induction h with
  | value h => exact h
  | table _ _ hnames _ ih => exact distinct_membersOf hnames ih
  | @tables elements hnames _ ih =>
    rw [Entry.toToml, tablesOf_eq_map]
    refine .array fun v hv => ?_
    obtain ⟨entries, hentries, rfl⟩ := List.mem_map.mp hv
    exact distinct_membersOf (hnames entries hentries) (ih entries hentries)

namespace Draft

structure Distinct (t : Draft) : Prop where
  names : (t.entries.map Prod.fst).Nodup
  entries : ∀ m ∈ t.entries, m.2.Distinct

variable {t : Draft} {name : String} {e : Entry}

theorem distinct_nil (implied dotted : Bool) : Distinct ⟨implied, dotted, []⟩ := ⟨.nil, nofun⟩

theorem distinct_table_iff {implied dotted : Bool} {entries : List (String × Entry)} :
    (Entry.table implied dotted entries).Distinct ↔ Distinct ⟨implied, dotted, entries⟩ := by
  constructor
  · rintro (_ | ⟨_, _, hnames, hentries⟩)
    exact ⟨hnames, hentries⟩
  · intro h
    exact .table _ _ h.names h.entries

theorem distinct_tables_iff {elements : List (List (String × Entry))} :
    (Entry.tables elements).Distinct ↔ ∀ entries ∈ elements, Distinct { entries } := by
  constructor
  · rintro (_ | _ | ⟨hnames, helements⟩) entries hmem
    exact ⟨hnames entries hmem, helements entries hmem⟩
  · intro h
    exact .tables (fun entries hmem => (h entries hmem).names) fun entries hmem =>
      (h entries hmem).entries

theorem Distinct.members (h : t.Distinct) : (Toml.table t.members).Distinct :=
  distinct_membersOf h.names fun m hm => (h.entries m hm).toToml

theorem Distinct.find? (h : t.Distinct) (hfound : t.find? name = some e) : e.Distinct :=
  h.entries _ (mem_of_lookup hfound)

theorem Distinct.put (h : t.Distinct) (he : e.Distinct) : (t.put name e).Distinct := by
  unfold Draft.put
  split
  · constructor
    · have hsame : (t.entries.map fun m => if m.1 = name then (name, e) else m).map Prod.fst =
          t.entries.map Prod.fst := by
        rw [List.map_map]
        refine List.map_congr_left fun m _ => ?_
        by_cases hm : m.1 = name <;> simp [hm]
      exact hsame ▸ h.names
    · intro m hm
      obtain ⟨old, hold, rfl⟩ := List.mem_map.mp hm
      by_cases hname : old.1 = name
      · simpa [hname] using he
      · simpa [hname] using h.entries old hold
  · rename_i hnone
    have hnew := lookup_eq_none_iff_not_mem.mp (Option.not_isSome_iff_eq_none.mp hnone)
    constructor
    · rw [List.map_append, List.nodup_append]
      refine ⟨h.names, by simp, ?_⟩
      rintro a ha b hb rfl
      simp only [List.map_cons, List.map_nil, List.mem_singleton] at hb
      exact hnew (hb ▸ ha)
    · intro m hm
      rcases List.mem_append.mp hm with hold | hlast
      · exact h.entries m hold
      · rw [List.mem_singleton.mp hlast]
        exact he

theorem Distinct.erase (h : t.Distinct) (name : String) : (t.erase name).Distinct :=
  ⟨h.names.sublist (List.filter_sublist.map Prod.fst), fun m hm =>
    h.entries m (List.mem_filter.mp hm).1⟩

/-- What is done at the end of a path leaves the tables on the way with different names. -/
theorem Distinct.alter {dotted : Bool} {f : Draft → Option Draft}
    (hf : ∀ {t t' : Draft}, t.Distinct → f t = some t' → t'.Distinct) {path : List String}
    {t t' : Draft} (h : t.Distinct) (ht' : alter dotted f path t = some t') : t'.Distinct := by
  induction path generalizing t t' with
  | nil => exact hf h ht'
  | cons name path ih =>
    rw [Draft.alter] at ht'
    split at ht'
    · obtain ⟨d, hd, rfl⟩ := Option.map_eq_some_iff.mp ht'
      exact h.put (distinct_table_iff.mpr (ih (distinct_nil true dotted) hd))
    · cases ht'
    · rename_i hfound
      split at ht'
      · cases ht'
      · obtain ⟨d, hd, rfl⟩ := Option.map_eq_some_iff.mp ht'
        exact h.put (distinct_table_iff.mpr (ih (distinct_table_iff.mp (h.find? hfound)) hd))
    · rename_i elements hfound
      obtain ⟨d, hd, rfl⟩ := Option.map_eq_some_iff.mp ht'
      have helements := distinct_tables_iff.mp (h.find? hfound)
      have hlast : Distinct { entries := elements.getLastD [] } := by
        rcases List.eq_nil_or_concat elements with rfl | ⟨before, last, rfl⟩
        · exact distinct_nil false false
        · simpa using helements last (by simp)
      have hd' : d.Distinct := ih hlast hd
      refine h.put (distinct_tables_iff.mpr fun entries hmem => ?_)
      rcases List.mem_append.mp hmem with hbefore | hopen
      · exact helements entries (List.dropLast_subset elements hbefore)
      · rw [List.mem_singleton.mp hopen]
        exact ⟨hd'.names, hd'.entries⟩

theorem Distinct.assign {names : List String} {v : Toml} {t' : Draft} (h : t.Distinct)
    (hv : v.Distinct) (ht' : t.assign names v = some t') : t'.Distinct := by
  refine h.alter (fun {d d'} hd hd' => ?_) ht'
  obtain ⟨-, hput⟩ := Option.ite_none_left_eq_some.mp hd'
  exact Option.some.inj hput ▸ hd.put (.value hv)

theorem Distinct.define {names : List String} {t' : Draft} (h : t.Distinct)
    (ht' : t.define names = some t') : t'.Distinct := by
  refine h.alter (fun {d d'} hd hd' => ?_) ht'
  split at hd'
  · cases hd'
    exact hd.put (distinct_table_iff.mpr (distinct_nil false false))
  · rename_i hfound
    cases hd'
    have hentries := distinct_table_iff.mp (hd.find? hfound)
    exact (hd.erase _).put (.table _ _ hentries.names hentries.entries)
  · cases hd'

theorem Distinct.extend {names : List String} {t' : Draft} (h : t.Distinct)
    (ht' : t.extend names = some t') : t'.Distinct := by
  refine h.alter (fun {d d'} hd hd' => ?_) ht'
  split at hd'
  · cases hd'
    refine hd.put (distinct_tables_iff.mpr fun entries hmem => ?_)
    exact List.mem_singleton.mp hmem ▸ distinct_nil false false
  · rename_i hfound
    cases hd'
    have helements := distinct_tables_iff.mp (hd.find? hfound)
    refine hd.put (distinct_tables_iff.mpr fun entries hmem => ?_)
    rcases List.mem_append.mp hmem with hbefore | hnew
    · exact helements entries hbefore
    · exact List.mem_singleton.mp hnew ▸ distinct_nil false false
  · cases hd'

end Draft

/-! ## Values -/

theorem distinct_of_ofWord? {s : List Char} {v : Toml} (h : ofWord? s = some v) : v.Distinct := by
  unfold ofWord? at h
  split at h
  · cases h
    exact .boolean true
  split at h
  · cases h
    exact .boolean false
  split at h
  · cases h
    exact .integer _
  split at h
  · cases h
    exact .real _
  · obtain ⟨text, -, rfl⟩ := Option.map_eq_some_iff.mp h
    exact .moment _

theorem distinct_of_scalar? {s rest : List Char} {v : Toml} (h : scalar? s = some (v, rest)) :
    v.Distinct := by
  simp only [scalar?] at h
  split at h
  · obtain ⟨w, hw, hpair⟩ := Option.map_eq_some_iff.mp h
    cases hpair
    exact distinct_of_ofWord? hw
  · split at h
    · obtain ⟨time, -, hpair⟩ := Option.map_eq_some_iff.mp h
      cases hpair
      exact .moment _
    · cases h
      exact .moment _

/-- What a reader of values reads has tables with different names. -/
def ReadsDistinct (read : List Char → Option (Toml × List Char)) : Prop :=
  ∀ {s rest : List Char} {v : Toml}, read s = some (v, rest) → v.Distinct

section

variable {read : List Char → Option (Toml × List Char)} (hread : ReadsDistinct read)

include hread

theorem distinct_of_items? {fuel : Nat} {s rest : List Char} {items : List Toml}
    (h : items? read fuel s = some (items, rest)) : ∀ v ∈ items, v.Distinct := by
  induction fuel generalizing s items with
  | zero => cases h
  | succ fuel ih =>
    rw [items?] at h
    obtain ⟨line, -, h⟩ := Option.bind_eq_some_iff.mp h
    split at h
    · cases h
      nofun
    · obtain ⟨⟨v, after⟩, hv, h⟩ := Option.bind_eq_some_iff.mp h
      obtain ⟨next, -, h⟩ := Option.bind_eq_some_iff.mp h
      split at h
      · obtain ⟨⟨others, last⟩, hothers, hpair⟩ := Option.bind_eq_some_iff.mp h
        cases hpair
        exact List.forall_mem_cons.mpr ⟨hread hv, ih hothers⟩
      · cases h
        exact List.forall_mem_singleton.mpr (hread hv)
      · cases h

theorem distinct_of_pair {s rest : List Char} {names : List String} {v : Toml}
    (h : pair read s = some ((names, v), rest)) : v.Distinct := by
  obtain ⟨⟨path, after⟩, -, h⟩ := Option.bind_eq_some_iff.mp h
  dsimp only at h
  split at h
  · obtain ⟨⟨w, last⟩, hw, hpair⟩ := Option.bind_eq_some_iff.mp h
    cases hpair
    exact hread hw
  · cases h

theorem distinct_of_pairs? {fuel : Nat} {t t' : Draft} {s rest : List Char} (ht : t.Distinct)
    (h : pairs? read fuel t s = some (t', rest)) : t'.Distinct := by
  induction fuel generalizing t s with
  | zero => cases h
  | succ fuel ih =>
    rw [pairs?] at h
    obtain ⟨⟨⟨names, v⟩, after⟩, hpair, h⟩ := Option.bind_eq_some_iff.mp h
    obtain ⟨next, hnext, h⟩ := Option.bind_eq_some_iff.mp h
    have hassigned : next.Distinct := ht.assign (distinct_of_pair hread hpair) hnext
    split at h
    · exact ih hassigned h
    · cases h
      exact hassigned
    · cases h

end

/-- A value is a string, a word, an array of values or a table that pairs have built. -/
theorem value?_cases {depth : Nat} {s rest : List Char} {v : Toml}
    (h : value? depth s = some (v, rest)) :
    (∃ text, v = .string text) ∨ scalar? s = some (v, rest) ∨
      ∃ inner, depth = inner + 1 ∧
        ((∃ fuel s' items, items? (value? inner) fuel s' = some (items, rest) ∧ v = .array items) ∨
          v = .table [] ∨
          ∃ fuel s' t,
            pairs? (value? inner) fuel {} s' = some (t, rest) ∧ v = .table t.members) := by
  unfold value? at h
  split at h
  · obtain ⟨text, -, hpair⟩ := Option.map_eq_some_iff.mp h
    cases hpair
    exact .inl ⟨_, rfl⟩
  · obtain ⟨text, -, hpair⟩ := Option.map_eq_some_iff.mp h
    cases hpair
    exact .inl ⟨_, rfl⟩
  · split at h
    · cases h
    · obtain ⟨⟨items, after⟩, hitems, hpair⟩ := Option.map_eq_some_iff.mp h
      cases hpair
      exact .inr (.inr ⟨_, rfl, .inl ⟨_, _, items, hitems, rfl⟩⟩)
  · split at h
    · cases h
    · split at h
      · cases h
        exact .inr (.inr ⟨_, rfl, .inr (.inl rfl)⟩)
      · obtain ⟨⟨t, after⟩, ht, hpair⟩ := Option.map_eq_some_iff.mp h
        cases hpair
        exact .inr (.inr ⟨_, rfl, .inr (.inr ⟨_, _, t, ht, rfl⟩)⟩)
  · exact .inr (.inl h)

theorem readsDistinct_value? (depth : Nat) : ReadsDistinct (value? depth) := by
  induction depth using Nat.strongRecOn with
  | ind depth ih =>
    intro s rest v h
    obtain ⟨text, rfl⟩ | hscalar | ⟨inner, rfl, hvalue⟩ := value?_cases h
    · exact .string text
    · exact distinct_of_scalar? hscalar
    · have hinner : ReadsDistinct (value? inner) := ih inner (Nat.lt_succ_self inner)
      obtain ⟨fuel, s', items, hitems, rfl⟩ | rfl | ⟨fuel, s', t, ht, rfl⟩ := hvalue
      · exact .array (distinct_of_items? hinner hitems)
      · exact .table .nil nofun
      · exact (distinct_of_pairs? hinner (Draft.distinct_nil false false) ht).members

/-! ## Lines -/

theorem Draft.Distinct.line? {r r' : Reading} {s rest : List Char} (hr : r.draft.Distinct)
    (h : line? r s = some (r', rest)) : r'.draft.Distinct := by
  unfold Toml.line? at h
  split at h
  · obtain ⟨⟨names, after⟩, -, h⟩ := Option.bind_eq_some_iff.mp h
    dsimp only at h
    split at h
    · obtain ⟨draft, hdraft, h⟩ := Option.bind_eq_some_iff.mp h
      obtain ⟨last, -, hpair⟩ := Option.bind_eq_some_iff.mp h
      cases hpair
      exact hr.extend hdraft
    · cases h
  · obtain ⟨⟨names, after⟩, -, h⟩ := Option.bind_eq_some_iff.mp h
    dsimp only at h
    split at h
    · obtain ⟨draft, hdraft, h⟩ := Option.bind_eq_some_iff.mp h
      obtain ⟨last, -, hpair⟩ := Option.bind_eq_some_iff.mp h
      cases hpair
      exact hr.define hdraft
    · cases h
  · split at h
    · cases h
      exact hr
    · obtain ⟨⟨⟨names, v⟩, after⟩, hv, h⟩ := Option.bind_eq_some_iff.mp h
      obtain ⟨draft, hdraft, h⟩ := Option.bind_eq_some_iff.mp h
      obtain ⟨last, -, hpair⟩ := Option.bind_eq_some_iff.mp h
      cases hpair
      have hvalue : v.Distinct := distinct_of_pair (readsDistinct_value? _) hv
      exact hr.alter (fun hd hd' => hd.assign hvalue hd') hdraft

theorem Draft.Distinct.lines? {fuel : Nat} {r r' : Reading} {s : List Char} (hr : r.draft.Distinct)
    (h : lines? fuel r s = some r') : r'.draft.Distinct := by
  induction fuel generalizing r s with
  | zero =>
    cases s with
    | nil =>
      cases h
      exact hr
    | cons c s => cases h
  | succ fuel ih =>
    cases s with
    | nil =>
      cases h
      exact hr
    | cons c s =>
      obtain ⟨⟨next, after⟩, hline, h⟩ := Option.bind_eq_some_iff.mp h
      exact ih (hr.line? hline) h

theorem distinct_of_parse? {document : List Char} {members : List (String × Toml)}
    (h : parse? document = some members) : (Toml.table members).Distinct := by
  obtain ⟨r, hr, rfl⟩ := Option.map_eq_some_iff.mp h
  exact (Draft.Distinct.lines? (Draft.distinct_nil false false) hr).members

end CallHistory.Toml
