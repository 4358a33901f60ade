import CallHistory.Proofs.Settings.Masking
import CallHistory.Proofs.Text.Offsets

/-! # Masking any text

Every text has an authority, whether it is an address or not: what stands between its first `://`, or
its start if there is none, and the next slash. At most one piece of a text is masked, the one between
the first colon and the last at sign of the authority. A masked text comes apart like the text itself,
so masking it again changes nothing. Masking by places, that are found in slices of the text and added
up, gives the same and never cuts a character in two.
-/

namespace CallHistory.Settings

/-! ## Passwords in an authority -/

structure Credentials where
  user : List Char
  password : List Char
  host : List Char
  colon_not_mem_user : ':' ∉ user
  at_not_mem_host : '@' ∉ host

namespace Credentials

def authority (c : Credentials) : List Char :=
  c.user ++ ':' :: c.password ++ '@' :: c.host

def masked (c : Credentials) : Credentials := { c with password := asterisks }

theorem maskAuthority_authority (c : Credentials) :
    maskAuthority c.authority = c.masked.authority :=
  maskAuthority_append c.colon_not_mem_user c.at_not_mem_host

end Credentials

/-- An authority in which no colon comes before an at sign. -/
def IsOpen (authority : List Char) : Prop :=
  ∀ user password host, authority ≠ user ++ ':' :: password ++ '@' :: host

/-- What is in front of the last at sign of an authority without a password has no colon. -/
theorem IsOpen.cut?_eq_none {authority user host : List Char} (h : IsOpen authority)
    (hlast : Text.cutLast? '@' authority = some (user, host)) : Text.cut? [':'] user = none := by
  cases hcut : Text.cut? [':'] user with
  | none => rfl
  | some r =>
    refine absurd ?_ (h r.1 r.2 host)
    rw [← Text.cutLast?_append hlast, ← Text.cut?_append hcut]
    simp

theorem IsOpen.maskAuthority_eq {authority : List Char} (h : IsOpen authority) :
    maskAuthority authority = authority := by
  unfold maskAuthority
  cases hlast : Text.cutLast? '@' authority with
  | none => rfl
  | some r =>
    have hcut := h.cut?_eq_none hlast
    simp only [hcut]

theorem isOpen_of_cutLast?_eq_none {authority : List Char}
    (h : Text.cutLast? '@' authority = none) : IsOpen authority := by
  rintro user password host rfl
  exact Text.not_mem_of_cutLast?_eq_none h (by simp)

theorem isOpen_append {user host : List Char} (huser : ':' ∉ user) (hhost : '@' ∉ host) :
    IsOpen (user ++ '@' :: host) := by
  intro name password rest h
  rw [List.append_eq_append_iff] at h
  rcases h with ⟨more, hmore, hbehind⟩ | ⟨more, hmore, -⟩
  · cases more with
    | nil =>
      rw [List.append_nil] at hmore
      exact huser (hmore ▸ by simp)
    | cons c more =>
      have hin : '@' ∈ host := by
        rw [List.cons_append, List.cons.injEq] at hbehind
        rw [hbehind.2]
        simp
      exact hhost hin
  · exact huser (hmore ▸ by simp)

theorem exists_credentials_or_isOpen (authority : List Char) :
    (∃ c : Credentials, c.authority = authority) ∨ IsOpen authority := by
  cases hlast : Text.cutLast? '@' authority with
  | none => exact .inr (isOpen_of_cutLast?_eq_none hlast)
  | some r =>
    have hhost := Text.not_mem_of_cutLast? hlast
    have hwhole := Text.cutLast?_append hlast
    cases hcut : Text.cut? [':'] r.1 with
    | none =>
      refine .inr (hwhole ▸ isOpen_append ?_ hhost)
      rw [Text.cut?_eq_none_iff, List.singleton_infix_iff] at hcut
      exact hcut
    | some q =>
      refine .inl ⟨⟨q.1, q.2, r.2, Text.not_mem_of_cut? hcut, hhost⟩, ?_⟩
      have huser := Text.cut?_append hcut
      change q.1 ++ ':' :: q.2 ++ '@' :: r.2 = authority
      rw [← hwhole, ← huser]
      simp

theorem maskAuthority_maskAuthority (authority : List Char) :
    maskAuthority (maskAuthority authority) = maskAuthority authority := by
  rcases exists_credentials_or_isOpen authority with ⟨c, rfl⟩ | hopen
  · rw [c.maskAuthority_authority, c.masked.maskAuthority_authority]
    rfl
  · rw [hopen.maskAuthority_eq, hopen.maskAuthority_eq]

theorem slash_not_mem_maskAuthority {authority : List Char} (h : '/' ∉ authority) :
    '/' ∉ maskAuthority authority := by
  rcases exists_credentials_or_isOpen authority with ⟨c, rfl⟩ | hopen
  · have huser : '/' ∉ c.user := fun hin => h (by simp [Credentials.authority, hin])
    have hhost : '/' ∉ c.host := fun hin => h (by simp [Credentials.authority, hin])
    rw [c.maskAuthority_authority]
    simp [Credentials.authority, Credentials.masked, asterisks, huser, hhost]
  · rwa [hopen.maskAuthority_eq]

/-- A pattern of a colon and slashes does not reach over an at sign with no slash in front of it. -/
theorem infix_behind_at {before behind : List Char} (hslash : '/' ∉ before)
    (h : "://".toList <:+: before ++ '@' :: behind) : "://".toList <:+: behind := by
  obtain ⟨x, y, hxy⟩ := h
  rw [List.append_assoc, List.append_eq_append_iff] at hxy
  rcases hxy with ⟨more, rfl, hmore⟩ | ⟨more, rfl, hmore⟩
  · -- The colon would be in front of the at sign, and so would the slash next to it.
    change ':' :: '/' :: '/' :: y = more ++ '@' :: behind at hmore
    match more with
    | [] => cases hmore
    | [_] => cases hmore
    | _ :: c :: rest =>
      obtain rfl : '/' = c := List.head_eq_of_cons_eq (List.tail_eq_of_cons_eq hmore)
      exact absurd (by simp) hslash
  · change '@' :: behind = more ++ ':' :: '/' :: '/' :: y at hmore
    match more with
    | [] => cases hmore
    | c :: rest =>
      have hbehind : behind = rest ++ ':' :: '/' :: '/' :: y := List.tail_eq_of_cons_eq hmore
      exact ⟨rest, y, by simp [hbehind]⟩

theorem not_infix_maskAuthority {authority tail : List Char} (hslash : '/' ∉ authority)
    (h : ¬"://".toList <:+: authority ++ tail) : ¬"://".toList <:+: maskAuthority authority ++ tail := by
  rcases exists_credentials_or_isOpen authority with ⟨c, rfl⟩ | hopen
  · have huser : '/' ∉ c.user := fun hin => hslash (by simp [Credentials.authority, hin])
    have hbefore : '/' ∉ c.user ++ ':' :: asterisks := by simp [asterisks, huser]
    have hmasked : maskAuthority c.authority ++ tail =
        c.user ++ ':' :: asterisks ++ '@' :: (c.host ++ tail) := by
      rw [c.maskAuthority_authority]
      simp [Credentials.authority, Credentials.masked]
    have hwhole : c.authority ++ tail =
        c.user ++ ':' :: c.password ++ ['@'] ++ (c.host ++ tail) := by simp [Credentials.authority]
    intro hinfix
    rw [hmasked] at hinfix
    have hbehind := infix_behind_at hbefore hinfix
    exact h (hwhole ▸ hbehind.trans (List.suffix_append _ _).isInfix)
  · rwa [hopen.maskAuthority_eq]

/-! ## Parts of a text -/

/-- What has no `://` up to the first slash of one is the scheme of the text that it leads. -/
theorem cut?_scheme {scheme : List Char} (h : ¬"://".toList <:+: scheme ++ ":/".toList)
    (rest : List Char) :
    Text.cut? "://".toList (scheme ++ "://".toList ++ rest) = some (scheme, rest) :=
  Text.cut?_of_first (by decide) h

/-- What comes in front of the authority of a text: all up to its first `://`, or nothing if there is
none. It is the first if none stands in what comes up to the first of its slashes. -/
inductive IsFront (rest : List Char) : List Char → Prop
  | start (h : ¬"://".toList <:+: rest) : IsFront rest []
  | scheme (scheme : List Char) (h : ¬"://".toList <:+: scheme ++ ":/".toList) :
    IsFront rest (scheme ++ "://".toList)

namespace IsFront

variable {front rest : List Char}

theorem exists_of_text (s : List Char) : ∃ front rest, IsFront rest front ∧ front ++ rest = s := by
  cases hcut : Text.cut? "://".toList s with
  | none => exact ⟨[], s, .start (Text.cut?_eq_none_iff.mp hcut), rfl⟩
  | some r =>
    have hfirst := Text.first_of_cut? (by decide) hcut
    exact ⟨r.1 ++ "://".toList, r.2, .scheme r.1 hfirst, Text.cut?_append hcut⟩

theorem mask_append (h : IsFront rest front) :
    mask (front ++ rest) =
      front ++ (Settings.maskAuthority (splitAuthority rest).1 ++ (splitAuthority rest).2) := by
  cases h with
  | start h =>
    rw [List.nil_append, mask, Text.cut?_eq_none_iff.mpr h]
    rfl
  | scheme scheme h =>
    rw [mask, cut?_scheme h]
    simp

theorem eq_of_append_eq {front' rest' : List Char} (h : IsFront rest front)
    (h' : IsFront rest' front') (hsame : front ++ rest = front' ++ rest') : front = front' := by
  cases h with
  | start h =>
    cases h' with
    | start h' => rfl
    | scheme scheme' h' =>
      rw [List.nil_append] at hsame
      exact absurd (List.infix_append scheme' _ rest') (hsame ▸ h)
  | scheme scheme h =>
    cases h' with
    | start h' =>
      rw [List.nil_append] at hsame
      exact absurd (List.infix_append scheme _ rest) (hsame ▸ h')
    | scheme scheme' h' =>
      have hboth := cut?_scheme h rest
      rw [hsame, cut?_scheme h' rest', Option.some_inj, Prod.mk.injEq] at hboth
      rw [hboth.1]

theorem maskAuthority {authority tail : List Char} (h : IsFront (authority ++ tail) front)
    (hslash : '/' ∉ authority) : IsFront (Settings.maskAuthority authority ++ tail) front := by
  cases h with
  | start h => exact .start (not_infix_maskAuthority hslash h)
  | scheme scheme h => exact .scheme scheme h

theorem find?_append (h : IsFront rest front) :
    ((Text.find? "://".toList (front ++ rest)).map (· + 3)).getD 0 = Text.byteLength front := by
  cases h with
  | start h =>
    rw [List.nil_append, Text.find?, Text.cut?_eq_none_iff.mpr h]
    rfl
  | scheme scheme h =>
    rw [Text.find?, cut?_scheme h, Text.byteLength_append]
    rfl

end IsFront

/-- A text in its parts: its authority, what is in front of it, and what comes from the next slash
on. -/
structure Parts where
  front : List Char
  authority : List Char
  tail : List Char
  isFront : IsFront (authority ++ tail) front
  slash_not_mem_authority : '/' ∉ authority
  tail_slash : ∀ c ∈ tail.head?, c = '/'

namespace Parts

def text (p : Parts) : List Char := p.front ++ (p.authority ++ p.tail)

theorem exists_of_text (s : List Char) : ∃ p : Parts, p.text = s := by
  obtain ⟨front, rest, hfront, rfl⟩ := IsFront.exists_of_text s
  cases hcut : Text.cut? ['/'] rest with
  | none =>
    rw [Text.cut?_eq_none_iff, List.singleton_infix_iff] at hcut
    exact ⟨⟨front, rest, [], by rwa [List.append_nil], hcut, nofun⟩, by simp [text]⟩
  | some r =>
    obtain ⟨authority, behind⟩ := r
    have hslash := Text.not_mem_of_cut? hcut
    have hwhole := Text.cut?_append hcut
    rw [← List.append_cons] at hwhole
    subst hwhole
    exact ⟨⟨front, authority, '/' :: behind, hfront, hslash, by simp⟩, rfl⟩

theorem text_injective : Function.Injective text := by
  rintro ⟨front, authority, tail, hfront, hslash, htail⟩
    ⟨front', authority', tail', hfront', hslash', htail'⟩ hsame
  obtain rfl : front = front' := hfront.eq_of_append_eq hfront' hsame
  have hrest : authority ++ tail = authority' ++ tail' := List.append_cancel_left hsame
  have hsplit := splitAuthority_append hslash htail
  rw [hrest, splitAuthority_append hslash' htail', Prod.mk.injEq] at hsplit
  obtain ⟨rfl, rfl⟩ := hsplit
  rfl

def masked (p : Parts) : Parts where
  front := p.front
  authority := maskAuthority p.authority
  tail := p.tail
  isFront := p.isFront.maskAuthority p.slash_not_mem_authority
  slash_not_mem_authority := slash_not_mem_maskAuthority p.slash_not_mem_authority
  tail_slash := p.tail_slash

theorem text_masked (p : Parts) :
    p.masked.text = p.front ++ (maskAuthority p.authority ++ p.tail) := rfl

theorem mask_text (p : Parts) : mask p.text = p.masked.text := by
  have hsplit := splitAuthority_append p.slash_not_mem_authority p.tail_slash
  rw [text, p.isFront.mask_append, hsplit, text_masked]

theorem text_masked_masked (p : Parts) : p.masked.masked.text = p.masked.text := by
  simp only [text, masked, maskAuthority_maskAuthority]

end Parts

/-! ## Masking by places -/

/-- Masks the password of an authority that starts at a place of a text. The places of its colon and
its at sign are searched in the authority and added to the start. -/
def replacePassword? (start : Nat) (authority s : List Char) : Option (List Char) :=
  match Text.findLast? '@' authority with
  | none => some s
  | some last =>
    (Text.upTo? last authority).bind fun login =>
      match Text.find? [':'] login with
      | none => some s
      | some colon => Text.replaceSlice? (start + colon + 1) (start + last) asterisks s

/-- Masks a text by places. Nothing comes out if a slice is to begin or end where the text, or the
slice that it is taken from, has no place. -/
def maskByPlaces? (s : List Char) : Option (List Char) := do
  let start := ((Text.find? "://".toList s).map (· + 3)).getD 0
  let rest ← Text.from? start s
  let stop := ((Text.find? ['/'] rest).map (start + ·)).getD (Text.byteLength s)
  let authority ← Text.slice? start stop s
  replacePassword? start authority s

theorem replacePassword?_credentials (c : Credentials) (front tail : List Char) :
    replacePassword? (Text.byteLength front) c.authority (front ++ (c.authority ++ tail)) =
      some (front ++ (c.masked.authority ++ tail)) := by
  have hlast : Text.cutLast? '@' c.authority = some (c.user ++ ':' :: c.password, c.host) :=
    Text.cutLast?_append_of_not_mem c.at_not_mem_host
  have hlogin := Text.upTo?_append (c.user ++ ':' :: c.password) ('@' :: c.host)
  have hcolon : Text.cut? [':'] (c.user ++ ':' :: c.password) = some (c.user, c.password) := by
    rw [List.append_cons]
    exact Text.cut?_append_of_not_mem c.colon_not_mem_user
  have hstart : Text.byteLength front + Text.byteLength c.user + 1 =
      Text.byteLength (front ++ (c.user ++ [':'])) := by
    simp [Nat.add_assoc]
    rfl
  have hstop : Text.byteLength front + Text.byteLength (c.user ++ ':' :: c.password) =
      Text.byteLength (front ++ (c.user ++ [':'])) + Text.byteLength c.password := by
    simp [Nat.add_assoc]
  have hreplaced := Text.replaceSlice?_append (front ++ (c.user ++ [':'])) c.password
    ('@' :: c.host ++ tail) asterisks
  have hwhole (password : List Char) : front ++ (c.user ++ [':']) ++ password ++ ('@' :: c.host ++ tail) =
      front ++ (c.user ++ ':' :: password ++ '@' :: c.host ++ tail) := by simp
  rw [hwhole, hwhole] at hreplaced
  change Text.upTo? (Text.byteLength (c.user ++ ':' :: c.password)) c.authority = _ at hlogin
  simp only [replacePassword?, Text.findLast?, hlast, Option.map_some, hlogin, Option.bind_some,
    Text.find?, hcolon, hstart, hstop]
  exact hreplaced

theorem replacePassword?_isOpen {authority : List Char} (h : IsOpen authority) (start : Nat)
    (s : List Char) : replacePassword? start authority s = some s := by
  unfold replacePassword? Text.findLast?
  cases hlast : Text.cutLast? '@' authority with
  | none => rfl
  | some r =>
    have hlogin := Text.upTo?_append r.1 ('@' :: r.2)
    rw [Text.cutLast?_append hlast] at hlogin
    simp [hlogin, Text.find?, h.cut?_eq_none hlast]

theorem replacePassword?_append (front authority tail : List Char) :
    replacePassword? (Text.byteLength front) authority (front ++ (authority ++ tail)) =
      some (front ++ (maskAuthority authority ++ tail)) := by
  rcases exists_credentials_or_isOpen authority with ⟨c, rfl⟩ | hopen
  · rw [c.maskAuthority_authority]
    exact replacePassword?_credentials c front tail
  · rw [hopen.maskAuthority_eq]
    exact replacePassword?_isOpen hopen _ _

namespace Parts

theorem find?_slash (p : Parts) :
    ((Text.find? ['/'] (p.authority ++ p.tail)).map (Text.byteLength p.front + ·)).getD
        (Text.byteLength p.text) =
      Text.byteLength p.front + Text.byteLength p.authority := by
  obtain ⟨front, authority, tail, -, hslash, htail⟩ := p
  cases tail with
  | nil =>
    simp [Text.find?, text, Text.cut?_eq_none_of_not_mem hslash]
  | cons c behind =>
    obtain rfl : c = '/' := htail c rfl
    have hcut : Text.cut? ['/'] (authority ++ '/' :: behind) = some (authority, behind) := by
      rw [List.append_cons]
      exact Text.cut?_append_of_not_mem hslash
    simp [Text.find?, hcut]

theorem maskByPlaces?_text (p : Parts) : maskByPlaces? p.text = some p.masked.text := by
  have hstart := p.isFront.find?_append
  have hrest := Text.from?_append p.front (p.authority ++ p.tail)
  have hstop := p.find?_slash
  have hauthority := Text.slice?_append p.front p.authority p.tail
  rw [List.append_assoc] at hauthority
  unfold text at hstop ⊢
  simp only [maskByPlaces?, Option.bind_eq_bind, hstart, hrest, hstop, hauthority, Option.bind_some]
  exact replacePassword?_append p.front p.authority p.tail

end Parts

/-! ## Any text -/

/-- What becomes of a text that is masked, whatever text it is. Masking by places comes to the same, so
every slice on the way is one between places of the text, and masking twice is masking once. The text
comes apart in one way, and of its parts nothing changes but the piece between the first colon and the
last at sign of the authority, if the colon comes first. -/
theorem masks_one_piece (s : List Char) :
    maskByPlaces? s = some (mask s) ∧ mask (mask s) = mask s ∧
      ∃! p : Parts, p.text = s ∧
        ((∃ c : Credentials, c.authority = p.authority ∧
            mask s = p.front ++ (c.masked.authority ++ p.tail)) ∨
          (IsOpen p.authority ∧ mask s = s)) := by
  obtain ⟨p, rfl⟩ := Parts.exists_of_text s
  refine ⟨?_, ?_, p, ⟨rfl, ?_⟩, fun q hq => Parts.text_injective hq.1⟩
  · rw [p.mask_text]
    exact p.maskByPlaces?_text
  · rw [p.mask_text, p.masked.mask_text]
    exact p.text_masked_masked
  · rw [p.mask_text, p.text_masked]
    rcases exists_credentials_or_isOpen p.authority with ⟨c, hc⟩ | hopen
    · exact .inl ⟨c, hc, by rw [← c.maskAuthority_authority, hc]⟩
    · exact .inr ⟨hopen, by rw [hopen.maskAuthority_eq, Parts.text]⟩

/-- Places count bytes: characters of several bytes stand at every delimiter. -/
example : maskByPlaces? "é://ü:ß:@é@ö@/😀:x@y".toList = some "é://ü:****@/😀:x@y".toList := by decide

end CallHistory.Settings
