import ManifestNotice.Proofs.Url.Host
import Mathlib.Data.List.TakeWhile

/-!
# Where an address leads

The site of an address is its scheme, its host and its port. A web address gets
it from the scheme and the authority alone (`parse?_site`), so a path put
behind an address leaves the site as it is (`site_under`). The exception are
addresses that have nothing but slashes where the host belongs (`lacksHost`):
there the path takes the place of the host.
-/

namespace ManifestNotice.Url

structure Site where
  scheme : List Char
  host : Option Host
  port : Option Nat
  deriving BEq, DecidableEq, Repr

def site (url : Url) : Site := ⟨url.scheme, url.host, url.port⟩

-- ---------------------------------------------------------------------------
-- Cleaning
-- ---------------------------------------------------------------------------

/-- The text without controls and spaces before it and without line breaks and
tabs inside. -/
def cleanedStart (text : List Char) : List Char := (text.dropWhile isEdge).filter (!isBreak ·)

theorem dropWhile_append_of_forall {p : α → Bool} {tail : List α} (h : ∀ a ∈ tail, p a = false)
    (list : List α) : (list ++ tail).dropWhile p = list.dropWhile p ++ tail := by
  have htail : tail.dropWhile p = tail := by
    cases tail with
    | nil => rfl
    | cons a tail => rw [List.dropWhile_cons_of_neg (by simp [h a List.mem_cons_self])]
  rw [List.dropWhile_append, htail]
  split
  · next hnil => rw [List.isEmpty_iff.mp hnil, List.nil_append]
  · rfl

theorem dropEnd_eq_self {p : Char → Bool} {text : List Char}
    (h : ∀ c, text.getLast? = some c → p c = false) : Text.dropEnd p text = text := by
  have hends : ∀ c ∈ ([] : List Char), p c := by simp
  simpa using Text.dropEnd_append hends h

theorem isEdge_of_isBreak {c : Char} (h : isBreak c) : isEdge c := by
  simp only [isBreak, Bool.or_eq_true, beq_iff_eq] at h
  rcases h with (rfl | rfl) | rfl <;> decide

theorem filter_isBreak_of_forall {text : List Char} (h : ∀ c ∈ text, isEdge c = false) :
    text.filter (!isBreak ·) = text := by
  refine List.filter_eq_self.mpr fun c hc => ?_
  cases hb : isBreak c with
  | false => rfl
  | true =>
    have hedge := isEdge_of_isBreak hb
    rw [h c hc] at hedge
    cases hedge

theorem cleanedStart_append {tail : List Char} (h : ∀ c ∈ tail, isEdge c = false)
    (text : List Char) : cleanedStart (text ++ tail) = cleanedStart text ++ tail := by
  rw [cleanedStart, dropWhile_append_of_forall h, List.filter_append, filter_isBreak_of_forall h]
  rfl

theorem cleaned_append {tail : List Char} (h : ∀ c ∈ tail, isEdge c = false) (hne : tail ≠ [])
    (text : List Char) : cleaned (text ++ tail) = cleanedStart text ++ tail := by
  have hend : Text.dropEnd isEdge (text.dropWhile isEdge ++ tail) =
      text.dropWhile isEdge ++ tail := by
    refine dropEnd_eq_self fun c hc => h c ?_
    obtain ⟨last, hlast⟩ := Option.isSome_iff_exists.mp (List.getLast?_isSome.mpr hne)
    rw [List.getLast?_append, hlast] at hc
    cases hc
    exact List.mem_of_getLast? hlast
  rw [cleaned, dropWhile_append_of_forall h, hend, List.filter_append, filter_isBreak_of_forall h]
  rfl

theorem exists_cleaned_append (text : List Char) :
    ∃ edges, cleanedStart text = cleaned text ++ edges ∧ ∀ c ∈ edges, isEdge c := by
  obtain ⟨lost, hsplit, hlost⟩ := Text.exists_dropEnd_append isEdge (text.dropWhile isEdge)
  refine ⟨lost.filter (!isBreak ·), ?_, fun c hc => hlost c (List.mem_filter.mp hc).1⟩
  rw [cleanedStart, cleaned, ← List.filter_append, ← hsplit]

-- ---------------------------------------------------------------------------
-- Schemes
-- ---------------------------------------------------------------------------

theorem cut_of_not_mem {mark : Char} {text : List Char} (h : mark ∉ text) :
    cut mark text = (text, none) := by
  have hall : ∀ c ∈ text, (c != mark) = true := fun c hc => by
    simpa using fun heq : c = mark => h (heq ▸ hc)
  rw [cut, List.takeWhile_eq_self_iff.mpr hall, List.dropWhile_eq_nil_iff.mpr hall]
  rfl

theorem cut_append {mark : Char} {name : List Char} (h : mark ∉ name) (rest : List Char) :
    cut mark (name ++ mark :: rest) = (name, some rest) := by
  have hall : ∀ c ∈ name, (c != mark) = true := fun c hc => by
    simpa using fun heq : c = mark => h (heq ▸ hc)
  rw [cut, List.takeWhile_append_of_pos hall, List.dropWhile_append_of_pos hall]
  simp

theorem scheme?_cons {name : List Char} (h : ':' ∉ name) (rest : List Char) :
    scheme? (name ++ ':' :: rest) = (scheme? (name ++ [':'])).map fun found => (found.1, rest) := by
  rw [scheme?, scheme?, cut_append h, cut_append h]
  cases name with
  | nil => rfl
  | cons c name =>
    dsimp only
    split <;> rfl

theorem scheme?_append {text tail scheme rest : List Char}
    (h : scheme? (text ++ tail) = some (scheme, rest)) (ht : ':' ∉ tail) :
    ∃ before, rest = before ++ tail ∧
      ∀ other, scheme? (text ++ other) = some (scheme, before ++ other) := by
  by_cases hc : ':' ∈ text
  · obtain ⟨name, before, rfl, hname⟩ := List.eq_append_cons_of_mem hc
    rw [List.append_assoc, List.cons_append, scheme?_cons hname, Option.map_eq_some_iff] at h
    obtain ⟨found, hfound, heq⟩ := h
    obtain ⟨rfl, rfl⟩ := Prod.mk.inj heq
    refine ⟨before, rfl, fun other => ?_⟩
    rw [List.append_assoc, List.cons_append, scheme?_cons hname, hfound]
    rfl
  · have hnone : ':' ∉ text ++ tail := by simp [hc, ht]
    rw [scheme?, cut_of_not_mem hnone] at h
    cases hall : text ++ tail <;> rw [hall] at h <;> cases h

-- ---------------------------------------------------------------------------
-- Authorities
-- ---------------------------------------------------------------------------

def authoritySite? (scheme authority : List Char) : Option Site :=
  let (hostText, portText) := splitPort false (splitUser authority).2
  if hostText.isEmpty then none
  else do
    let host ← Host.parse? true hostText
    let port ← port? scheme (cutPort (portText.getD [])).1
    some ⟨scheme, some host, port⟩

theorem authority?_site {url : Url} (h : isSpecial url.scheme) (authority : List Char)
    (atEnd : Bool) :
    (url.authority? authority atEnd).map (·.1.site) = authoritySite? url.scheme authority := by
  unfold authority? authoritySite?
  simp only [h, Bool.and_true]
  split
  · rfl
  · generalize Host.parse? true _ = host
    generalize port? url.scheme _ = port
    cases host with
    | none => rfl
    | some host => cases port <;> rfl

theorem splitUser_append {c : Char} (h : c ≠ '@') (authority : List Char) :
    ∃ rest, (splitUser (authority ++ [c])).2 = rest ++ [c] ∧ ∀ a ∈ rest, a ∈ authority := by
  have hbehind : ((authority ++ [c]).reverse.takeWhile (· != '@')).reverse =
      (authority.reverse.takeWhile (· != '@')).reverse ++ [c] := by
    rw [List.reverse_append, List.reverse_singleton, List.singleton_append,
      List.takeWhile_cons_of_pos (by simpa using h), List.reverse_cons]
  unfold splitUser
  dsimp only
  rw [hbehind]
  split
  · exact ⟨authority, rfl, fun a ha => ha⟩
  · refine ⟨_, rfl, fun a ha => ?_⟩
    exact List.mem_reverse.mp (List.takeWhile_subset _ (List.mem_reverse.mp ha))

theorem splitPort_append {c : Char} (hcolon : c ≠ ':') (inside : Bool) (text : List Char) :
    (∃ host port, splitPort inside (text ++ [c]) = (host, some (port ++ [c])) ∧
        ∀ a ∈ port, a ∈ text) ∨
      ∃ host, splitPort inside (text ++ [c]) = (host ++ [c], none) := by
  induction text generalizing inside with
  | nil => exact .inr ⟨[], by simp [splitPort, hcolon]⟩
  | cons first text ih =>
    rw [List.cons_append, splitPort]
    split
    · exact .inl ⟨[], text, rfl, fun a ha => List.mem_cons_of_mem _ ha⟩
    · rcases ih (if first == '[' then true else if first == ']' then false else inside) with
        ⟨host, port, hsplit, hport⟩ | ⟨host, hsplit⟩
      · rw [hsplit]
        exact .inl ⟨first :: host, port, rfl, fun a ha => List.mem_cons_of_mem _ (hport a ha)⟩
      · rw [hsplit]
        exact .inr ⟨first :: host, rfl⟩

theorem port?_of_edge {c : Char} (h : isEdge c) (scheme text : List Char) :
    port? scheme (text ++ [c]) = none := by
  have hdigit : c.isDigit = false := forall_edge (fun c => c.isDigit = false) (by decide) h
  have hall : (text ++ [c]).all Char.isDigit = false := by simp [hdigit]
  simp [port?, hall]

theorem authoritySite?_of_edge {c : Char} (h : isEdge c) (scheme : List Char)
    {authority : List Char} (hb : '\\' ∉ authority) : authoritySite? scheme (authority ++ [c]) = none := by
  have hno (mark : Char) (hm : isEdge mark = false) : c ≠ mark := by
    rintro rfl
    rw [h] at hm
    cases hm
  obtain ⟨rest, hrest, hmem⟩ := splitUser_append (hno '@' rfl) authority
  unfold authoritySite?
  rw [hrest]
  rcases splitPort_append (hno ':' rfl) false rest with ⟨host, port, hsplit, hport⟩ | ⟨host, hsplit⟩
  · have hdigits : cutPort (port ++ [c]) = (port ++ [c], []) := by
      have hall : ∀ a ∈ port ++ [c], (a != '\\') = true := by
        intro a ha
        rw [bne_iff_ne]
        rintro rfl
        rcases List.mem_append.mp ha with ha | ha
        · exact hb (hmem _ (hport _ ha))
        · exact hno '\\' rfl (List.mem_singleton.mp ha).symm
      rw [cutPort, List.takeWhile_eq_self_iff.mpr hall, List.dropWhile_eq_nil_iff.mpr hall]
    rw [hsplit]
    simp only [Option.getD_some, hdigits, port?_of_edge h]
    split
    · rfl
    · cases Host.parse? true host <;> rfl
  · rw [hsplit]
    simp [Host.parse?_of_edge h]

-- ---------------------------------------------------------------------------
-- Addresses
-- ---------------------------------------------------------------------------

theorem authority?_scheme {url other : Url} (h : url.authority? authority atEnd = some (other, left)) :
    other.scheme = url.scheme := by
  have hport {port : Option (Option Nat)} {read : Option Nat → Url × List Char}
      (hread : ∀ n, (read n).1.scheme = url.scheme)
      (h : (port.bind fun n => some (read n)) = some (other, left)) : other.scheme = url.scheme := by
    obtain ⟨n, -, h⟩ := Option.bind_eq_some_iff.mp h
    rw [← hread n, Option.some.inj h]
  unfold authority? at h
  simp only [Option.bind_eq_bind] at h
  split at h
  · cases h
  · obtain ⟨host, -, h⟩ := Option.bind_eq_some_iff.mp h
    split at h
    · split at h
      · cases h
      · split at h
        · cases h
        · exact hport (fun _ => rfl) h
    · exact hport (fun _ => rfl) h

theorem withAuthority?_scheme {url other : Url} {text : List Char}
    (h : url.withAuthority? text = some other) : other.scheme = url.scheme := by
  unfold withAuthority? at h
  simp only [Option.bind_eq_bind, Option.bind_eq_some_iff, Option.some.injEq] at h
  obtain ⟨⟨read, left⟩, hread, rfl⟩ := h
  show read.scheme = url.scheme
  exact authority?_scheme hread

theorem file?_scheme {url other : Url} {text : List Char} (h : url.file? text = some other) :
    other.scheme = url.scheme := by
  unfold file? at h
  split at h
  · split at h
    · dsimp only at h
      split at h
      · cases h
        rfl
      · simp only [Option.bind_eq_bind, Option.bind_eq_some_iff, Option.some.injEq] at h
        obtain ⟨host, -, rfl⟩ := h
        rfl
    · cases h
      rfl
  · cases h
    rfl

theorem parse?_scheme {text : List Char} (h : parse? text = some url) :
    ∃ rest, scheme? (cleaned text) = some (url.scheme, rest) := by
  simp only [parse?, Option.bind_eq_bind, Option.bind_eq_some_iff] at h
  obtain ⟨⟨scheme, rest⟩, hscheme, h⟩ := h
  refine ⟨rest, ?_⟩
  rw [hscheme]
  suffices url.scheme = scheme by rw [this]
  split at h
  · exact file?_scheme h
  · split at h
    · exact withAuthority?_scheme h
    · split at h
      · exact withAuthority?_scheme h
      · cases h
        rfl
      · cases h
        rfl

theorem special_of_isWeb {url : Url} (h : url.isWeb) :
    isSpecial url.scheme ∧ (url.scheme == fileScheme) = false := by
  simp only [isWeb, Bool.or_eq_true, beq_iff_eq] at h
  rcases h with h | h <;> rw [h] <;> decide +kernel

theorem withAuthority?_site (url : Url) (h : isSpecial url.scheme) (text : List Char) :
    (url.withAuthority? text).map site =
      authoritySite? url.scheme (text.takeWhile (!endsAuthority true ·)) := by
  unfold withAuthority?
  simp only [h]
  rw [← authority?_site h _ (text.dropWhile (!endsAuthority true ·)).isEmpty]
  cases url.authority? (text.takeWhile (!endsAuthority true ·)) _ <;> rfl

def authorityIn (rest : List Char) : List Char :=
  (rest.dropWhile (separates true)).takeWhile (!endsAuthority true ·)

theorem parse?_site {text scheme rest : List Char} (hs : scheme? (cleaned text) = some (scheme, rest))
    (hw : ({ scheme } : Url).isWeb) :
    (parse? text).map site = authoritySite? scheme (authorityIn rest) := by
  obtain ⟨hspecial, hfile⟩ := special_of_isWeb hw
  unfold parse?
  rw [hs]
  simp only [Option.bind_eq_bind, Option.bind_some]
  rw [if_neg (by simp [hfile]), if_pos hspecial]
  exact withAuthority?_site { scheme } hspecial _

-- ---------------------------------------------------------------------------
-- Paths on a server
-- ---------------------------------------------------------------------------

/-- Whether nothing but slashes stands where a web address has its host. -/
def lacksHost (address : List Char) : Bool :=
  match scheme? (cleanedStart address) with
  | some (scheme, rest) => ({ scheme } : Url).isWeb && rest.all (separates true)
  | none => false

/-- Whether a path is kept as it is behind an address and holds no colon. -/
def isPlainPath (path : List Char) : Bool := path.all fun c => !isEdge c && c != ':'

theorem isPlainPath_iff {path : List Char} :
    isPlainPath path ↔ ∀ c ∈ path, isEdge c = false ∧ c ≠ ':' := by
  simp [isPlainPath]

theorem lacksHost_iff {address : List Char} : lacksHost address ↔
    ∃ scheme rest, scheme? (cleanedStart address) = some (scheme, rest) ∧
      ({ scheme } : Url).isWeb ∧ rest.all (separates true) := by
  unfold lacksHost
  split
  · next scheme rest hs =>
    rw [Bool.and_eq_true]
    constructor
    · rintro ⟨hw, hall⟩
      exact ⟨scheme, rest, hs, hw, hall⟩
    · rintro ⟨_, _, heq, hw, hall⟩
      cases hs.symm.trans heq
      exact ⟨hw, hall⟩
  · next hs => simp [hs]

theorem parse?_of_lacksHost {address : List Char} (h : lacksHost address) : parse? address = none := by
  obtain ⟨scheme, rest, hs, hw, hall⟩ := lacksHost_iff.mp h
  obtain ⟨edges, hcleaned, hedges⟩ := exists_cleaned_append address
  have hedge : ':' ∉ edges := fun hc => absurd (hedges ':' hc) (by decide)
  rw [hcleaned] at hs
  obtain ⟨before, rfl, hwhole⟩ := scheme?_append hs hedge
  have hown := hwhole []
  rw [List.append_nil, List.append_nil] at hown
  rw [List.all_append, Bool.and_eq_true, List.all_eq_true] at hall
  have hnothing : authorityIn before = [] := by
    rw [authorityIn, List.dropWhile_eq_nil_iff.mpr hall.1]
    rfl
  have hsite := parse?_site hown hw
  rw [hnothing] at hsite
  exact Option.map_eq_none_iff.mp hsite

/-- On a server without a host, a path takes the place of the host. -/
theorem parse?_under_of_lacksHost {server path : List Char} (hp : isPlainPath path)
    (h : lacksHost server) :
    ∃ scheme, ({ scheme } : Url).isWeb ∧
      parse? (Text.dropEnd (· == '/') server ++ '/' :: path) =
        ({ scheme } : Url).withAuthority? (path.dropWhile (separates true)) := by
  obtain ⟨scheme, rest, hs, hw, hall⟩ := lacksHost_iff.mp h
  obtain ⟨slashes, hserver, hslashes⟩ := Text.exists_dropEnd_append (· == '/') server
  generalize Text.dropEnd (· == '/') server = body at hserver ⊢
  have hplain : ∀ c ∈ slashes, isEdge c = false ∧ c ≠ ':' := by
    intro c hc
    rw [beq_iff_eq.mp (hslashes c hc)]
    decide
  rw [hserver, cleanedStart_append fun c hc => (hplain c hc).1] at hs
  obtain ⟨before, rfl, hwhole⟩ := scheme?_append hs fun hc => (hplain ':' hc).2 rfl
  have hunder := hwhole ('/' :: path)
  have hnoedge : ∀ c ∈ '/' :: path, isEdge c = false := by
    simpa using ⟨by decide, fun c hc => (isPlainPath_iff.mp hp c hc).1⟩
  rw [← cleaned_append hnoedge (by simp)] at hunder
  rw [List.all_append, Bool.and_eq_true, List.all_eq_true] at hall
  obtain ⟨hspecial, hfile⟩ := special_of_isWeb hw
  refine ⟨scheme, hw, ?_⟩
  unfold parse?
  rw [hunder]
  simp only [Option.bind_eq_bind, Option.bind_some]
  rw [if_neg (by simp [hfile]), if_pos hspecial, List.dropWhile_append_of_pos hall.1,
    List.dropWhile_cons_of_pos (by decide)]

theorem authorityIn_append {before : List Char} (h : before.all (separates true) = false)
    {tail : List Char} (ht : ∀ c, tail.head? = some c → endsAuthority true c) :
    authorityIn (before ++ tail) = authorityIn before := by
  have hne : (before.dropWhile (separates true)).isEmpty = false := by
    rw [← Bool.not_eq_true, List.isEmpty_iff, List.dropWhile_eq_nil_iff, ← List.all_eq_true, h]
    decide
  have hstop : tail.takeWhile (!endsAuthority true ·) = [] := by
    cases tail with
    | nil => rfl
    | cons c tail => rw [List.takeWhile_cons_of_neg (by simp [ht c rfl])]
  unfold authorityIn
  rw [List.dropWhile_append, hne, if_neg (by decide), List.takeWhile_append, hstop, List.append_nil]
  split
  · next hlength => exact (List.takeWhile_prefix _).eq_of_length hlength |>.symm
  · rfl

theorem ends_of_slash {slashes : List Char} (h : ∀ c ∈ slashes, (c == '/') = true) :
    ∀ c, slashes.head? = some c → endsAuthority true c := by
  intro c hc
  rw [beq_iff_eq.mp (h c (List.mem_of_head? hc))]
  decide

theorem separates_of_slash {slashes : List Char} (h : ∀ c ∈ slashes, (c == '/') = true) :
    slashes.all (separates true) := by
  refine List.all_eq_true.mpr fun c hc => ?_
  rw [beq_iff_eq.mp (h c hc)]
  decide

theorem not_ends_of_edge {c : Char} (h : isEdge c) : endsAuthority true c = false :=
  forall_edge (fun c => endsAuthority true c = false) (by decide) h

/-- Where an authority with controls and spaces behind it names a site, it ends
before them. -/
theorem authoritySite?_append {scheme before edges : List Char} {named : Site}
    (h : ∀ c ∈ edges, isEdge c)
    (hs : authoritySite? scheme (authorityIn (before ++ edges)) = some named) :
    authoritySite? scheme (authorityIn before) = some named := by
  have hpass : ∀ c ∈ edges, (!endsAuthority true c) = true := fun c hc => by
    rw [not_ends_of_edge (h c hc)]
    rfl
  have hsep : ∀ c ∈ edges, separates true c = false := fun c hc => by
    have hno := not_ends_of_edge (h c hc)
    simp only [endsAuthority, Bool.or_eq_false_iff] at hno
    exact hno.1.1
  unfold authorityIn at hs ⊢
  rw [dropWhile_append_of_forall hsep, List.takeWhile_append] at hs
  generalize before.dropWhile (separates true) = authority at hs ⊢
  split at hs
  · next hlength =>
    have hall := (List.takeWhile_prefix (!endsAuthority true ·)).eq_of_length hlength
    rw [List.takeWhile_eq_self_iff.mpr hpass] at hs
    rcases edges.eq_nil_or_concat with rfl | ⟨front, last, rfl⟩
    · rwa [hall, ← List.append_nil authority]
    · have hback : '\\' ∉ authority ++ front := by
        intro hb
        have hno : endsAuthority true '\\' = false := by
          rcases List.mem_append.mp hb with hb | hb
          · rw [← hall] at hb
            simpa using List.mem_takeWhile_imp hb
          · exact not_ends_of_edge (h _ (by simp [hb]))
        revert hno
        decide
      rw [List.concat_eq_append, ← List.append_assoc,
        authoritySite?_of_edge (h last (by simp)) scheme hback] at hs
      cases hs
  · exact hs

/-- A path on a server is on the site of the server. -/
theorem site_under {server path : List Char} {url : Url} (hp : isPlainPath path)
    (hl : lacksHost server = false)
    (h : parse? (Text.dropEnd (· == '/') server ++ '/' :: path) = some url) (hw : url.isWeb) :
    (parse? server).map site = some url.site := by
  obtain ⟨slashes, hserver, hslashes⟩ := Text.exists_dropEnd_append (· == '/') server
  generalize Text.dropEnd (· == '/') server = body at h hserver
  have hp := isPlainPath_iff.mp hp
  have hnoedge : ∀ c ∈ '/' :: path, isEdge c = false := by
    simpa using ⟨by decide, fun c hc => (hp c hc).1⟩
  have hplain : ∀ c ∈ slashes, isEdge c = false := by
    intro c hc
    rw [beq_iff_eq.mp (hslashes c hc)]
    decide
  have hcolon : ':' ∉ '/' :: path := by
    simpa using fun hc : ':' ∈ path => (hp ':' hc).2 rfl
  obtain ⟨rest, hscheme⟩ := parse?_scheme h
  have hunder := parse?_site hscheme hw
  rw [h, Option.map_some] at hunder
  rw [cleaned_append hnoedge (by simp)] at hscheme
  obtain ⟨before, rfl, hbefore⟩ := scheme?_append hscheme hcolon
  -- the host stands in what is in front of the slashes
  have hnotall : before.all (separates true) = false := by
    have hstart := hbefore slashes
    rw [← cleanedStart_append hplain, ← hserver] at hstart
    rw [lacksHost, hstart] at hl
    dsimp only at hl
    rw [show ({ scheme := url.scheme } : Url).isWeb = true from hw, Bool.true_and, List.all_append,
      separates_of_slash hslashes, Bool.and_true] at hl
    exact hl
  rw [authorityIn_append hnotall (by simp; decide)] at hunder
  cases slashes with
  | cons slash slashes =>
    have hown := hbefore (slash :: slashes)
    rw [← cleaned_append hplain (by simp), ← hserver] at hown
    rw [parse?_site hown hw, authorityIn_append hnotall (ends_of_slash hslashes), hunder]
  | nil =>
    rw [List.append_nil] at hserver
    subst hserver
    obtain ⟨edges, hcleaned, hedges⟩ := exists_cleaned_append server
    have hown := hbefore []
    rw [List.append_nil, List.append_nil, hcleaned] at hown
    have hedge : ':' ∉ edges := fun hc => absurd (hedges ':' hc) (by decide)
    obtain ⟨own, rfl, hwhole⟩ := scheme?_append hown hedge
    have hown := hwhole []
    rw [List.append_nil, List.append_nil] at hown
    rw [parse?_site hown hw]
    exact authoritySite?_append hedges hunder.symm

end ManifestNotice.Url
