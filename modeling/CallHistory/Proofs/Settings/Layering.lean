import CallHistory.Proofs.Toml.Names
import CallHistory.Settings.Layers
import Mathlib.Data.List.Forall2
import Mathlib.Data.List.TakeWhile

/-! # A layer on nothing

Where the names of a document are plain, its tree is laid on nothing name by name and stays as it
is: no path is read out of a name, no name changes its case, and none meets another.
-/

namespace CallHistory.Settings

def IsPlain (name : String) : Prop := name ≠ "" ∧ ∀ c ∈ name.toList, c.isLower = true ∨ c = '_'

instance (name : String) : Decidable (IsPlain name) :=
  haveI : Decidable (∀ c ∈ name.toList, c.isLower = true ∨ c = '_') := List.decidableBAll _ _
  inferInstanceAs (Decidable (_ ∧ _))

theorem lower_of_isLower {c : Char} (h : c.isLower = true) : Text.lower c = c := by
  obtain ⟨hfrom, hto⟩ := Bool.and_eq_true_iff.mp h
  exact Text.lower_eq_self (UInt32.lt_of_le_of_lt (of_decide_eq_true hto) (by decide))
    (.inr (UInt32.lt_of_lt_of_le (by decide) (of_decide_eq_true hfrom)))

namespace IsPlain

variable {name : String}

theorem lowerName (h : IsPlain name) : Tree.lowerName name = name := by
  have hsame : ∀ c ∈ name.toList, Text.lower c = c := by
    intro c hc
    rcases h.2 c hc with hlower | rfl
    · exact lower_of_isLower hlower
    · decide
  rw [Tree.lowerName, List.map_congr_left hsame, List.map_id', String.ofList_toList]

theorem ofKey (h : IsPlain name) : Path.ofKey name = [.name name] := by
  have hchars : ∀ c ∈ name.toList, Path.isNameChar c = true := by
    intro c hc
    rcases h.2 c hc with hlower | rfl
    · have halpha : c.isAlpha = true := Bool.or_eq_true_iff.mpr (.inr hlower)
      have halphanum : c.isAlphanum = true := Bool.or_eq_true_iff.mpr (.inl halpha)
      simp [Path.isNameChar, halphanum]
    · decide
  have hne : name.toList ≠ [] := fun hnil => h.1 (String.toList_eq_nil_iff.mp hnil)
  have htake : name.toList.takeWhile Path.isNameChar = name.toList :=
    List.takeWhile_eq_self_iff.mpr hchars
  have hdrop : name.toList.dropWhile Path.isNameChar = [] := List.dropWhile_eq_nil_iff.mpr hchars
  have hname : Path.name? name.toList = some (.name name, []) := by
    simp [Path.name?, htake, hdrop, hne]
  have hparse : Path.parse? name.toList = some [.name name] := by
    rw [Path.parse?, hname]
    rfl
  rw [Path.ofKey, hparse]
  rfl

theorem ne_moment (h : IsPlain name) : name ≠ Moment.name := by
  rintro rfl
  exact absurd h (by decide)

end IsPlain

namespace Tree

/-- Tables below tables have different names, in lower case. -/
inductive Settled : Tree → Prop
  | leaf {t : Tree} (h : ∀ members, t ≠ .table members) : Settled t
  | table {members : List (String × Tree)} (hlower : ∀ m ∈ members, lowerName m.1 = m.1)
      (hnames : (members.map Prod.fst).Nodup) (hmembers : ∀ m ∈ members, Settled m.2) :
      Settled (.table members)

theorem change_new {name : String} {members : List (String × Tree)}
    (hnew : name ∉ members.map Prod.fst) (f : Tree → Tree) :
    (table members).change name f = table (members ++ [(name, f absent)]) := by
  have hnone : (table members).at? name = none := by
    rw [at?, Tree.members]
    exact Toml.lookup_eq_none_iff_not_mem.mpr hnew
  rw [change, hnone]
  rfl

theorem putAll_new {members : List (String × Tree)}
    (hput : ∀ m ∈ members, ∀ others, m.1 ∉ others.map Prod.fst →
      put m.1 m.2 (table others) = table (others ++ [m]))
    (hnames : (members.map Prod.fst).Nodup) (others : List (String × Tree))
    (hnew : ∀ m ∈ members, m.1 ∉ others.map Prod.fst) :
    putAll members (table others) = table (others ++ members) := by
  induction members generalizing others with
  | nil => rw [putAll, List.append_nil]
  | cons m rest ih =>
    obtain ⟨hfirst, hrest⟩ := List.forall_mem_cons.mp hput
    obtain ⟨hm, hothers⟩ := List.forall_mem_cons.mp hnew
    rw [List.map_cons, List.nodup_cons] at hnames
    -- The names still to come differ from the one that is put first.
    have hstill : ∀ n ∈ rest, n.1 ∉ (others ++ [m]).map Prod.fst := by
      intro n hn
      have hne : n.1 ≠ m.1 := ne_of_mem_of_not_mem (List.mem_map_of_mem hn) hnames.1
      simpa [hne] using hothers n hn
    rw [putAll, hfirst others hm, ih hrest hnames.2 _ hstill, List.append_assoc]
    rfl

theorem Settled.put {name : String} {v : Tree} (hv : v.Settled) (hname : lowerName name = name)
    {others : List (String × Tree)} (hnew : name ∉ others.map Prod.fst) :
    Tree.put name v (.table others) = .table (others ++ [(name, v)]) := by
  induction hv generalizing name others with
  | @leaf v h =>
    cases v with
    | table members => exact absurd rfl (h members)
    | _ => rw [Tree.put, hname, change_new hnew]; nofun
  | @table members hlower hnames _ ih =>
    -- Nothing is there to be joined with, so the members are put into an empty table.
    have hall : putAll members (Tree.table []) = Tree.table members :=
      putAll_new (fun m hm others => ih m hm (hlower m hm)) hnames [] (fun _ _ => by simp)
    rw [Tree.put, hname, change_new hnew, orTable, hall]

theorem Settled.putAll {members : List (String × Tree)} (h : (Tree.table members).Settled) :
    Tree.putAll members (.table []) = .table members := by
  rcases h with h | ⟨hlower, hnames, hmembers⟩
  · exact absurd rfl (h members)
  · exact putAll_new (fun m hm _ => (hmembers m hm).put (hlower m hm)) hnames [] fun _ _ => by simp

/-! ## Trees of documents -/

theorem exists_ofItems? {items : List Toml} (h : ∀ v ∈ items, ∃ t, ofToml? v = some t) :
    ∃ ts, ofItems? items = some ts := by
  induction items with
  | nil => exact ⟨[], rfl⟩
  | cons v rest ih =>
    obtain ⟨hv, hrest⟩ := List.forall_mem_cons.mp h
    obtain ⟨t, ht⟩ := hv
    obtain ⟨ts, hts⟩ := ih hrest
    exact ⟨t :: ts, by rw [ofItems?, ht, hts]; rfl⟩

theorem exists_ofMembers? {P : Tree → Prop} {members : List (String × Toml)}
    (h : ∀ m ∈ members, ∃ t, ofToml? m.2 = some t ∧ P t) :
    ∃ layer, ofMembers? members = some layer ∧ ∀ m ∈ layer, P m.2 := by
  induction members with
  | nil => exact ⟨[], rfl, nofun⟩
  | cons m rest ih =>
    obtain ⟨hm, hrest⟩ := List.forall_mem_cons.mp h
    obtain ⟨t, ht, hP⟩ := hm
    obtain ⟨layer, hlayer, hPs⟩ := ih hrest
    refine ⟨(m.1, t) :: layer, by rw [ofMembers?, ht, hlayer]; rfl, ?_⟩
    exact List.forall_mem_cons.mpr ⟨hP, hPs⟩

variable {members : List (String × Toml)} {layer : List (String × Tree)}

theorem forall₂_of_ofMembers? (h : ofMembers? members = some layer) :
    List.Forall₂ (fun m n => m.1 = n.1 ∧ ofToml? m.2 = some n.2) members layer := by
  induction members generalizing layer with
  | nil =>
    cases h
    exact .nil
  | cons m rest ih =>
    obtain ⟨t, ht, h⟩ := Option.bind_eq_some_iff.mp h
    obtain ⟨others, hothers, hlayer⟩ := Option.bind_eq_some_iff.mp h
    cases hlayer
    exact .cons ⟨rfl, ht⟩ (ih hothers)

theorem forall₂_of_ofItems? {items : List Toml} {ts : List Tree} (h : ofItems? items = some ts) :
    List.Forall₂ (fun v t => ofToml? v = some t) items ts := by
  induction items generalizing ts with
  | nil =>
    cases h
    exact .nil
  | cons v rest ih =>
    obtain ⟨t, ht, h⟩ := Option.bind_eq_some_iff.mp h
    obtain ⟨others, hothers, hts⟩ := Option.bind_eq_some_iff.mp h
    cases hts
    exact .cons ht (ih hothers)

theorem names_of_ofMembers? (h : ofMembers? members = some layer) :
    layer.map Prod.fst = members.map Prod.fst := by
  have hall := forall₂_of_ofMembers? h
  clear h
  induction hall with
  | nil => rfl
  | cons hm _ ih => rw [List.map_cons, List.map_cons, hm.1, ih]

theorem plain_of_names (hplain : ∀ name ∈ (Toml.table members).names, IsPlain name) :
    ∀ m ∈ members, IsPlain m.1 :=
  fun m hm => hplain m.1 (Toml.mem_names_table_iff.mpr ⟨m, hm, .inl rfl⟩)

theorem isMoment_eq_false (hplain : ∀ m ∈ members, IsPlain m.1) :
    Moment.isMoment members = false := by
  cases members with
  | nil => decide
  | cons m rest => simpa [Moment.isMoment] using (hplain m List.mem_cons_self).ne_moment

theorem plain_of_mem (h : ofMembers? members = some layer) (hplain : ∀ m ∈ members, IsPlain m.1)
    {m : String × Tree} (hm : m ∈ layer) : IsPlain m.1 := by
  have hmem : m.1 ∈ members.map Prod.fst := names_of_ofMembers? h ▸ List.mem_map_of_mem hm
  obtain ⟨old, hold, hname⟩ := List.mem_map.mp hmem
  exact hname ▸ hplain old hold

/-- A value with plain names, none of them twice in a table, has a settled tree. -/
theorem exists_settled {v : Toml} (hv : v.Distinct) (hplain : ∀ name ∈ v.names, IsPlain name) :
    ∃ t, ofToml? v = some t ∧ t.Settled := by
  induction hv with
  | string s => exact ⟨.text s, rfl, .leaf nofun⟩
  | integer n => exact ⟨.integer n, rfl, .leaf nofun⟩
  | real x => exact ⟨.real x, rfl, .leaf nofun⟩
  | boolean b => exact ⟨.flag b, rfl, .leaf nofun⟩
  | moment text => exact ⟨.text text, rfl, .leaf nofun⟩
  | @array items _ ih =>
    have hall : ∀ v ∈ items, ∃ t, ofToml? v = some t := fun v hv =>
      (ih v hv fun name h => hplain name (Toml.mem_names_array_iff.mpr ⟨v, hv, h⟩)).imp
        fun _ h => h.1
    obtain ⟨ts, hts⟩ := exists_ofItems? hall
    exact ⟨.list ts, by rw [ofToml?, hts]; rfl, .leaf nofun⟩
  | @table members hnames _ ih =>
    have hhere : ∀ m ∈ members, IsPlain m.1 := plain_of_names hplain
    obtain ⟨layer, hlayer, hsettled⟩ := exists_ofMembers? fun m hm =>
      ih m hm fun name h => hplain name (Toml.mem_names_table_iff.mpr ⟨m, hm, .inr h⟩)
    have hsame := names_of_ofMembers? hlayer
    refine ⟨.table layer, ?_, .table ?_ (hsame ▸ hnames) hsettled⟩
    · rw [ofToml?, isMoment_eq_false hhere, hlayer]
      rfl
    · intro m hm
      exact (plain_of_mem hlayer hhere hm).lowerName

end Tree

/-! ## Documents as layers -/

theorem foldlM_lay? {layer : List (String × Tree)} (hplain : ∀ m ∈ layer, IsPlain m.1) (t : Tree) :
    layer.foldlM Layers.lay? t = some (Tree.putAll layer t) := by
  induction layer generalizing t with
  | nil => rw [Tree.putAll]; rfl
  | cons m rest ih =>
    obtain ⟨hm, hrest⟩ := List.forall_mem_cons.mp hplain
    have hlay : Layers.lay? t m = some (Tree.put m.1 m.2 t) := by
      rw [Layers.lay?, hm.ofKey, Tree.putAt?]
    rw [List.foldlM_cons, hlay, Option.bind_eq_bind, Option.bind_some, ih hrest, Tree.putAll]

/-- Without variables about settings, a document with plain names makes the tree of its table. -/
theorem layered_holding {document : List Char} {members : List (String × Toml)}
    (hparse : Toml.parse? document = some members)
    (hplain : ∀ name ∈ (Toml.table members).names, IsPlain name)
    {environment : List (String × String)} (henv : ∀ v ∈ environment, Layers.key? v.1 = none) :
    ∃ layer, Tree.ofMembers? members = some layer ∧
      layered (.holding document) environment = .ok layer := by
  have hhere : ∀ m ∈ members, IsPlain m.1 := Tree.plain_of_names hplain
  have hmoment := Tree.isMoment_eq_false hhere
  obtain ⟨t, ht, hsettled⟩ := Tree.exists_settled (Toml.distinct_of_parse? hparse) hplain
  rw [Tree.ofToml?, hmoment] at ht
  obtain ⟨layer, hlayer, rfl⟩ := Option.map_eq_some_iff.mp ht
  have hfile : Layers.ofFile? document = some layer := by
    rw [Layers.ofFile?, hparse, Option.bind_some, Tree.ofDocument?, hmoment]
    exact hlayer
  have hvariables : Layers.ofEnvironment environment = [] := by
    rw [Layers.ofEnvironment, List.filterMap_eq_nil_iff]
    intro v hv
    rw [henv v hv]
    rfl
  have htree : layer.foldlM Layers.lay? (.table []) = some (.table layer) := by
    rw [foldlM_lay? fun m hm => Tree.plain_of_mem hlayer hhere hm, hsettled.putAll]
  exact ⟨layer, hlayer, by simp only [layered, hfile, hvariables, List.append_nil, htree]; rfl⟩

end CallHistory.Settings
