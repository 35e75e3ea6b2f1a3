import Mathlib.Data.List.TakeWhile
import Onboarding.Net.Authority
import Onboarding.Proofs.Number.Numerals
import Onboarding.Proofs.Text.Cuts

/-!
# Hosts and ports of targets

A target is a scheme with `://` behind it, or none, then a host, then a path, or none
(`Authority.Parts`). Every target has such parts, and only one host. Its authority is the host, with
the port of the scheme behind it unless the host ends in a port of its own. An authority is itself a
target: it has no scheme and no path, so it is its own host, and as it ends in a port it is its own
authority.

The scheme ends at the first `://` of the whole target. Behind a scheme the path therefore makes no
difference, whatever it holds. Where a target has no scheme, a path without `://` makes none either;
but a path with `://` is read as a host, and then the host before it is the one that makes no
difference.

## Main results

* `Authority.schemePort?_eq_some_iff`: the schemes that have a port of their own.
* `Authority.exists_parts`, `Authority.Parts.unique`: every target has one host.
* `Authority.of_eq`: the authority of a target by its parts.
* `Authority.of_eq_self`: a host that ends in a port is its own authority.
* `Authority.of_complete`: what the authority of any target is.
* `Authority.of_path`: when the path of a target makes a difference.
-/

namespace Onboarding.Authority

/-! ### Ports -/

/-- A port, with or without leading zeros. -/
def IsPort (p : List Char) : Prop :=
  ∃ n, Numeral.Spells p n ∧ n ≤ 65535

/-- A text that ends in a colon and a port. -/
def EndsInPort (cs : List Char) : Prop :=
  ∃ h p, cs = h ++ ':' :: p ∧ IsPort p

/-- No digit and no plus sign separates anything. -/
theorem IsPort.not_mem {p : List Char} (h : IsPort p) {c : Char} (hplus : c ≠ '+')
    (hdigit : Numeral.digit? c = none) : c ∉ p := by
  obtain ⟨n, hn, -⟩ := h
  intro hc
  rcases hn.mem_cases hc with heq | hsome
  · exact hplus heq
  · rw [hdigit] at hsome
    exact Bool.false_ne_true hsome

theorem isPort_text {n : Nat} (h : n ≤ 65535) : IsPort (Numeral.text n) :=
  ⟨n, Numeral.spells_text n, h⟩

/-- **A host has a port** exactly if it ends in one. -/
theorem hasPort_iff {cs : List Char} : hasPort cs = true ↔ EndsInPort cs := by
  have hport : ∀ p, (Numeral.parse? 65535 p).isSome = true ↔ IsPort p :=
    fun p => Numeral.isSome_parse?_iff
  rw [hasPort]
  constructor
  · intro h
    split at h
    · rename_i host p hcut
      exact ⟨host, p, (Text.cutAtLast_eq_some_iff.mp hcut).1, (hport p).mp h⟩
    · simp at h
  · rintro ⟨host, p, rfl, hp⟩
    have hcolon : ':' ∉ p := hp.not_mem (by decide) (by decide)
    rw [Text.cutAtLast_append hcolon host]
    exact (hport p).mpr hp

/-- The schemes that have a port of their own. -/
inductive SchemePort : List Char → Nat → Prop where
  | https : SchemePort "https".toList 443
  | http : SchemePort "http".toList 80
  | mqtts : SchemePort "mqtts".toList 8883
  | ssl : SchemePort "ssl".toList 8883
  | mqtt : SchemePort "mqtt".toList 1883
  | tcp : SchemePort "tcp".toList 1883

/-- **The port of a scheme** is its own. -/
theorem schemePort?_eq_some_iff {scheme : List Char} {n : Nat} :
    schemePort? scheme = some n ↔ SchemePort scheme n := by
  constructor
  · intro h
    rw [schemePort?] at h
    split at h
    · rename_i hhttps
      obtain rfl := Option.some.inj h
      exact hhttps ▸ .https
    · split at h
      · rename_i hhttp
        obtain rfl := Option.some.inj h
        exact hhttp ▸ .http
      · split at h
        · rename_i hsecure
          obtain rfl := Option.some.inj h
          rcases hsecure with rfl | rfl
          · exact .mqtts
          · exact .ssl
        · split at h
          · rename_i hplain
            obtain rfl := Option.some.inj h
            rcases hplain with rfl | rfl
            · exact .mqtt
            · exact .tcp
          · simp at h
  · intro h
    cases h <;> decide

/-- The port that a target stands for: the one of its scheme, or the default port for a scheme that
has none and for a target without a scheme. -/
inductive PortFor (default : Nat) : Option (List Char) → Nat → Prop where
  | own {scheme : List Char} {n : Nat} (h : SchemePort scheme n) : PortFor default (some scheme) n
  | unknown {scheme : List Char} (h : ∀ n, ¬SchemePort scheme n) :
      PortFor default (some scheme) default
  | missing : PortFor default none default

/-! ### The parts of a target -/

/-- What stands behind a scheme. -/
def mark : List Char :=
  "://".toList

/-- Nothing, or what starts with a slash. -/
def IsPath (path : List Char) : Prop :=
  ∀ c ∈ path.head?, c = '/'

/-- A target with its scheme, if it has one, and its host. -/
inductive Parts : List Char → Option (List Char) → List Char → Prop where
  | url {scheme host path : List Char} (hscheme : ¬mark <:+: scheme) (hhost : '/' ∉ host)
      (hpath : IsPath path) : Parts (scheme ++ (mark ++ (host ++ path))) (some scheme) host
  | bare {host path : List Char} (hmark : ¬mark <:+: host ++ path) (hhost : '/' ∉ host)
      (hpath : IsPath path) : Parts (host ++ path) none host

/-- The port that stands behind a host without one: that of the scheme, or else the given one. -/
def portOf (scheme : Option (List Char)) (port : Nat) : Nat :=
  (scheme.bind schemePort?).getD port

/-- **Behind a host without a port stands the one that its target stands for.** -/
theorem portFor_portOf (scheme : Option (List Char)) (port : Nat) :
    PortFor port scheme (portOf scheme port) := by
  rw [portOf]
  cases scheme with
  | none => exact .missing
  | some s =>
      rw [Option.bind_some]
      cases hs : schemePort? s with
      | none =>
          refine .unknown fun n hn => ?_
          rw [schemePort?_eq_some_iff.mpr hn] at hs
          simp at hs
      | some n => exact .own (schemePort?_eq_some_iff.mp hs)

/-- A port that a target stands for is one that there is. -/
theorem PortFor.le {default n : Nat} {scheme : Option (List Char)} (h : PortFor default scheme n)
    (hdefault : default ≤ 65535) : n ≤ 65535 := by
  cases h with
  | own hs => cases hs <;> decide
  | unknown | missing => exact hdefault

theorem isPath_nil : IsPath [] := by
  simp [IsPath]

theorem isPath_slash (p : List Char) : IsPath ('/' :: p) := by
  simp [IsPath]

theorem slash_mem_mark : '/' ∈ mark := by
  decide

/-- What is before the first slash is the host. -/
theorem host_append {h path : List Char} (hh : '/' ∉ h) (hpath : IsPath path) :
    host (h ++ path) = h := by
  have hnone : path.takeWhile (· != '/') = [] := by
    cases path with
    | nil => rfl
    | cons c r =>
        obtain rfl : c = '/' := hpath c rfl
        rfl
  have hall : ∀ c ∈ h, (c != '/') = true := fun c hc => bne_iff_ne.mpr fun heq => hh (heq ▸ hc)
  rw [host, List.takeWhile_append_of_pos hall, hnone, List.append_nil]

/-- Every text is a host and a path. -/
theorem exists_host (cs : List Char) :
    ∃ path, cs = host cs ++ path ∧ '/' ∉ host cs ∧ IsPath path := by
  refine ⟨cs.dropWhile (· != '/'), (List.takeWhile_append_dropWhile ..).symm, ?_, ?_⟩
  · intro hslash
    simpa using List.mem_takeWhile_imp hslash
  · intro c hc
    have hhead := List.head?_dropWhile_not (· != '/') cs
    rw [Option.mem_def.mp hc] at hhead
    simpa using hhead

theorem cutAtMark_eq_some_iff {target scheme rest : List Char} :
    Text.cutAtWord "://".toList target = some (scheme, rest) ↔
      target = scheme ++ (mark ++ rest) ∧ ¬mark <:+: scheme :=
  Text.cutAtWord_eq_some_iff (by decide)

theorem cutAtMark_eq_none_iff {target : List Char} :
    Text.cutAtWord "://".toList target = none ↔ ¬mark <:+: target :=
  Text.cutAtWord_eq_none_iff

/-- **Every target has a host.** -/
theorem exists_parts (target : List Char) : ∃ scheme host, Parts target scheme host := by
  cases hcut : Text.cutAtWord "://".toList target with
  | none =>
      obtain ⟨path, heq, hhost, hpath⟩ := exists_host target
      have hmark := cutAtMark_eq_none_iff.mp hcut
      rw [heq] at hmark ⊢
      exact ⟨none, host target, .bare hmark hhost hpath⟩
  | some found =>
      obtain ⟨scheme, rest⟩ := found
      obtain ⟨rfl, hscheme⟩ := cutAtMark_eq_some_iff.mp hcut
      obtain ⟨path, heq, hhost, hpath⟩ := exists_host rest
      rw [heq]
      exact ⟨some scheme, host rest, .url hscheme hhost hpath⟩

/-- The parts of a target are what it is cut into. -/
theorem Parts.cut {target h : List Char} {scheme : Option (List Char)}
    (hparts : Parts target scheme h) :
    (∃ s rest, Text.cutAtWord "://".toList target = some (s, rest) ∧ scheme = some s ∧
      h = host rest) ∨
    Text.cutAtWord "://".toList target = none ∧ scheme = none ∧ h = host target := by
  cases hparts with
  | url hscheme hhost hpath =>
      exact .inl ⟨_, _, cutAtMark_eq_some_iff.mpr ⟨rfl, hscheme⟩, rfl,
        (host_append hhost hpath).symm⟩
  | bare hmark hhost hpath =>
      exact .inr ⟨cutAtMark_eq_none_iff.mpr hmark, rfl, (host_append hhost hpath).symm⟩

/-- **A target has only one scheme and only one host.** -/
theorem Parts.unique {target h k : List Char} {s t : Option (List Char)} (hs : Parts target s h)
    (ht : Parts target t k) : s = t ∧ h = k := by
  rcases hs.cut with ⟨a, r, hcut, rfl, rfl⟩ | ⟨hcut, rfl, rfl⟩ <;>
    rcases ht.cut with ⟨b, u, hcut', rfl, rfl⟩ | ⟨hcut', rfl, rfl⟩ <;>
    rw [hcut] at hcut'
  · obtain ⟨rfl, rfl⟩ := Prod.mk.inj (Option.some.inj hcut')
    exact ⟨rfl, rfl⟩
  · simp at hcut'
  · simp at hcut'
  · exact ⟨rfl, rfl⟩

/-! ### Authorities -/

/-- **The authority of a target** is its host with the port that belongs to its scheme. -/
theorem of_eq {target h : List Char} {scheme : Option (List Char)} (hparts : Parts target scheme h)
    (port : Nat) : of target port = withPort (portOf scheme port) h := by
  rw [of, portOf]
  rcases hparts.cut with ⟨s, rest, hcut, rfl, rfl⟩ | ⟨hcut, rfl, rfl⟩
  · rw [hcut]
    rfl
  · rw [hcut]
    rfl

/-- A host with a port stays as it is, and behind any other stands the given port. -/
theorem withPort_cases (port : Nat) (h : List Char) :
    EndsInPort h ∧ withPort port h = h ∨
      ¬EndsInPort h ∧ withPort port h = h ++ ':' :: Numeral.text port := by
  rw [withPort, ← hasPort_iff]
  split
  · rename_i hport
    exact .inl ⟨hport, rfl⟩
  · rename_i hport
    exact .inr ⟨hport, rfl⟩

/-- A host with a port ends in a port. -/
theorem endsInPort_withPort {port : Nat} (hport : port ≤ 65535) (h : List Char) :
    EndsInPort (withPort port h) := by
  rcases withPort_cases port h with ⟨hends, heq⟩ | ⟨-, heq⟩
  · rw [heq]
    exact hends
  · exact ⟨h, Numeral.text port, heq, isPort_text hport⟩

/-- A port brings no slash. -/
theorem slash_not_mem_withPort {port : Nat} (hport : port ≤ 65535) {h : List Char} (hh : '/' ∉ h) :
    '/' ∉ withPort port h := by
  have htext : '/' ∉ Numeral.text port := (isPort_text hport).not_mem (by decide) (by decide)
  rcases withPort_cases port h with ⟨-, heq⟩ | ⟨-, heq⟩
  · rwa [heq]
  · simp [heq, hh, htext]

/-- A text without a slash holds no mark. -/
theorem not_mark_of_slash {cs : List Char} (h : '/' ∉ cs) : ¬mark <:+: cs :=
  fun hword => h (hword.subset slash_mem_mark)

/-- A text without a slash is a target without a scheme and without a path. -/
theorem parts_of_slash {h : List Char} (hh : '/' ∉ h) : Parts h none h := by
  have hparts : Parts (h ++ []) none h :=
    .bare (by rw [List.append_nil]; exact not_mark_of_slash hh) hh isPath_nil
  rwa [List.append_nil] at hparts

theorem Parts.slash_not_mem {target h : List Char} {scheme : Option (List Char)}
    (hparts : Parts target scheme h) : '/' ∉ h := by
  cases hparts with
  | url _ hhost _ => exact hhost
  | bare _ hhost _ => exact hhost

/-- **A host that ends in a port is its own authority.** -/
theorem of_eq_self {h : List Char} (hh : '/' ∉ h) (hends : EndsInPort h) (port : Nat) :
    of h port = h := by
  rw [of_eq (parts_of_slash hh), withPort, if_pos (hasPort_iff.mpr hends)]

/-- **The authority of any target** has no slash, ends in a port, and is its own authority with any
other default port. It is the host of the target if that has a port, and otherwise the host with the
port of the scheme, or the default port, behind it. -/
theorem of_complete (target : List Char) (d e : UInt16) :
    '/' ∉ of target d.toNat ∧ EndsInPort (of target d.toNat) ∧
    (∃ scheme host n, (∀ s h, Parts target s h ↔ s = scheme ∧ h = host) ∧
      PortFor d.toNat scheme n ∧
      (EndsInPort host ∧ of target d.toNat = host ∨
        ¬EndsInPort host ∧ of target d.toNat = host ++ ':' :: Nat.toDigits 10 n)) ∧
    of (of target d.toNat) e.toNat = of target d.toNat := by
  obtain ⟨scheme, host, hparts⟩ := exists_parts target
  have hfor := portFor_portOf scheme d.toNat
  have hport : portOf scheme d.toNat ≤ 65535 := hfor.le (Nat.le_of_lt_succ d.toNat_lt)
  have hslash : '/' ∉ of target d.toNat := by
    rw [of_eq hparts]
    exact slash_not_mem_withPort hport hparts.slash_not_mem
  have hends : EndsInPort (of target d.toNat) := by
    rw [of_eq hparts]
    exact endsInPort_withPort hport host
  have honly : ∀ s h, Parts target s h ↔ s = scheme ∧ h = host := by
    intro s h
    constructor
    · exact fun hother => hother.unique hparts
    · rintro ⟨rfl, rfl⟩
      exact hparts
  refine ⟨hslash, hends, ⟨scheme, host, _, honly, hfor, ?_⟩, of_eq_self hslash hends _⟩
  rw [of_eq hparts]
  exact withPort_cases _ host

/-- Schemes with a port and without, a target without a scheme, and a host with a port. -/
theorem of_complete_of_schemes :
    (∀ x ∈ [("https", "443"), ("http", "80"), ("mqtts", "8883"), ("ssl", "8883"), ("mqtt", "1883"),
        ("tcp", "1883"), ("ftp", "9000")],
      of (x.1 ++ "://example.com/api").toList 9000 = ("example.com:" ++ x.2).toList) ∧
    of "example.com".toList 9000 = "example.com:9000".toList ∧
    of "https://[::1]:+08/".toList 9000 = "[::1]:+08".toList ∧
    of (of "https://example.com/api".toList 9000) 1 = "example.com:443".toList := by
  have hschemes : ∀ x ∈ [("https", "443"), ("http", "80"), ("mqtts", "8883"), ("ssl", "8883"),
        ("mqtt", "1883"), ("tcp", "1883"), ("ftp", "9000")],
      of (x.1 ++ "://example.com/api").toList 9000 = ("example.com:" ++ x.2).toList := by
    decide +kernel
  obtain ⟨-, -, -, hstable⟩ := of_complete "https://example.com/api".toList 9000 1
  refine ⟨hschemes, by decide +kernel, by decide +kernel, hstable.trans ?_⟩
  exact hschemes ("https", "443") List.mem_cons_self

/-! ### Paths -/

/-- No scheme with a port of its own has a slash. -/
theorem schemePort?_eq_none {scheme : List Char} (h : '/' ∈ scheme) :
    schemePort? scheme = none := by
  refine Option.eq_none_iff_forall_ne_some.mpr fun n hn => ?_
  rw [schemePort?_eq_some_iff] at hn
  cases hn <;> exact absurd h (by decide)

/-- What stands before the first mark of a target is its scheme. -/
theorem of_append_mark {s : List Char} (hs : ¬mark <:+: s) (r : List Char) (port : Nat) :
    of (s ++ (mark ++ r)) port = withPort (portOf (some s) port) (host r) := by
  obtain ⟨path, heq, hhost, hpath⟩ := exists_host r
  have hparts : Parts (s ++ (mark ++ (host r ++ path))) (some s) (host r) :=
    .url hs hhost hpath
  rw [← heq] at hparts
  exact of_eq hparts port

/-- The first mark of a host and a path is in the path, or the host ends in its colon. -/
theorem mark_cases {h p a r : List Char} (hh : '/' ∉ h) (heq : h ++ '/' :: p = a ++ (mark ++ r)) :
    (∃ q, a = h ++ '/' :: q ∧ p = q ++ (mark ++ r)) ∨ h = a ++ [':'] ∧ p = '/' :: r := by
  rcases List.append_eq_append_iff.mp heq with ⟨q, rfl, hq⟩ | ⟨c, rfl, hc⟩
  · cases q with
    | nil => simp [mark] at hq
    | cons d q =>
        obtain ⟨rfl, rfl⟩ := List.cons.inj hq
        exact .inl ⟨q, rfl, rfl⟩
  · match c, hc with
    | [], hc => simp [mark] at hc
    | [d], hc =>
        obtain ⟨rfl, rfl⟩ : ':' = d ∧ '/' :: r = p := by simpa [mark] using hc
        exact .inr ⟨rfl, rfl⟩
    | d :: e :: c, hc =>
        obtain ⟨-, rfl, -⟩ : ':' = d ∧ '/' = e ∧ '/' :: r = c ++ '/' :: p := by
          simpa [mark] using hc
        simp at hh

/-- **When the path of a target makes a difference.** Behind a scheme it never does. Without one it
makes none if there is no `://` in it; if there is, the host is what stands behind the first one,
with the default port, and the host before the path makes no difference. A host that ends in a colon
before a path that begins with a slash is a scheme. -/
theorem of_path {s h : List Char} (hs : ¬mark <:+: s) (hh : '/' ∉ h) (p : List Char) (d : UInt16) :
    of (s ++ (mark ++ (h ++ '/' :: p))) d.toNat = of (s ++ (mark ++ h)) d.toNat ∧
    (¬mark <:+: h ++ '/' :: p ∧ of (h ++ '/' :: p) d.toNat = of h d.toNat ∨
      (∃ q r, p = q ++ (mark ++ r) ∧ ¬mark <:+: h ++ '/' :: q ∧
        of (h ++ '/' :: p) d.toNat = withPort d.toNat (host r)) ∨
      ∃ g r, h = g ++ [':'] ∧ p = '/' :: r ∧
        of (h ++ '/' :: p) d.toNat = withPort (portOf (some g) d.toNat) (host r)) := by
  constructor
  · have hpath : host (h ++ '/' :: p) = host h := by
      have hnone := host_append hh isPath_nil
      rw [List.append_nil] at hnone
      rw [host_append hh (isPath_slash p), hnone]
    rw [of_append_mark hs, of_append_mark hs, hpath]
  · cases hcut : Text.cutAtWord "://".toList (h ++ '/' :: p) with
    | none =>
        have hmark := cutAtMark_eq_none_iff.mp hcut
        refine .inl ⟨hmark, ?_⟩
        rw [of_eq (.bare hmark hh (isPath_slash p)), of_eq (parts_of_slash hh)]
    | some found =>
        obtain ⟨a, r⟩ := found
        obtain ⟨heq, ha⟩ := cutAtMark_eq_some_iff.mp hcut
        have hof := of_append_mark ha r d.toNat
        rw [← heq] at hof
        rcases mark_cases hh heq with ⟨q, rfl, rfl⟩ | ⟨rfl, rfl⟩
        · have hport : portOf (some (h ++ '/' :: q)) d.toNat = d.toNat := by
            rw [portOf, Option.bind_some, schemePort?_eq_none (by simp), Option.getD_none]
          rw [hport] at hof
          exact .inr (.inl ⟨q, r, rfl, ha, hof⟩)
        · exact .inr (.inr ⟨a, r, rfl, rfl, hof⟩)

/-- A path that asks to go on elsewhere: behind a scheme it makes no difference, and without one it
is the elsewhere that is connected to. -/
theorem of_path_of_redirect :
    ¬mark <:+: "https".toList ∧ '/' ∉ "example.com".toList ∧
    of "https://example.com/login?next=http://other.example/".toList 443 =
      of "https://example.com".toList 443 ∧
    of "example.com/login?next=http://other.example/".toList 443 = "other.example:443".toList ∧
    of "example.com".toList 443 = "example.com:443".toList := by
  have hs : ¬mark <:+: "https".toList := by decide
  have hh : '/' ∉ "example.com".toList := by decide
  exact ⟨hs, hh, (of_path hs hh "login?next=http://other.example/".toList 443).1,
    by decide +kernel, by decide +kernel⟩

end Onboarding.Authority
