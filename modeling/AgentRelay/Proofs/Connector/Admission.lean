import AgentRelay.Connector
import AgentRelay.Proofs.Outcome

/-! What a connection is prepared for, and why it is refused otherwise. The conditions on the
address, the certificates, the clock and the key are stated without the code that checks them: a
text shows a certificate when its first block is tagged as one and can be read, and a check passes
when its condition holds. Proved: a connection is only ever prepared when the address has a host and
all five checks pass; when that is not so there is a refusal, and every refusal is the answer. A
refusal of the credentials is that of the first check that fails. The handshake and the syntax of
the address as a URI, which are looked at last, can refuse further connections. -/
namespace AgentRelay

/-! ### Texts that show a certificate or a key -/

namespace Certificate

/-- The first block of a text is tagged as a certificate and holds this one. -/
def Shows (text : String) (certificate : Certificate) : Prop :=
  ∃ block, Pem.parse text = .ok block ∧ block.tag = "CERTIFICATE" ∧
    read block.contents = .ok certificate

/-- What keeps a text from showing a certificate. -/
inductive Defect (text : String) : Fault → Prop where
  | framing {fault} : Pem.parse text = .error fault → Defect text (.framing fault)
  | tag {block} : Pem.parse text = .ok block → block.tag ≠ "CERTIFICATE" →
      Defect text (.unexpectedTag "CERTIFICATE" block.tag)
  | contents {block failure} : Pem.parse text = .ok block → block.tag = "CERTIFICATE" →
      read block.contents = .error failure → Defect text (.certificate failure)

/-- The tag ends with `PRIVATE KEY` and does not start with `ENCRYPTED`. -/
def TagsPlainKey (tag : String) : Prop :=
  "PRIVATE KEY".toList <:+ tag.toList ∧ ¬ "ENCRYPTED".toList <+: tag.toList

/-- The first block of a text is tagged as a private key in plain form. -/
def ShowsKey (text : String) : Prop :=
  ∃ block, Pem.parse text = .ok block ∧ TagsPlainKey block.tag

/-- What keeps a text from showing a private key in plain form. -/
inductive KeyDefect (text : String) : Fault → Prop where
  | framing {fault} : Pem.parse text = .error fault → KeyDefect text (.framing fault)
  | tag {block} : Pem.parse text = .ok block → ¬TagsPlainKey block.tag →
      KeyDefect text (.unexpectedTag "PRIVATE KEY" block.tag)

variable {text : String} {certificate : Certificate} {fault : Fault}

theorem ofText_of_shows (h : Shows text certificate) : ofText text = .ok certificate := by
  obtain ⟨block, hparse, htag, hread⟩ := h
  simp [ofText, Certificate.block, ofBytes, hparse, hread, htag, tag, bind, Except.bind,
    mapError_ok]

theorem ofText_of_defect (h : Defect text fault) : ofText text = .error fault := by
  cases h with
  | framing hparse =>
    simp [ofText, Certificate.block, hparse, bind, Except.bind, mapError_error]
  | tag hparse htag =>
    simp [ofText, Certificate.block, hparse, htag, tag, bind, Except.bind, mapError_ok, throw,
      throwThe, MonadExceptOf.throw]
  | contents hparse htag hread =>
    simp [ofText, Certificate.block, ofBytes, hparse, hread, htag, tag, bind, Except.bind,
      mapError_ok, mapError_error]

theorem shows_or_defect (text : String) :
    (∃ certificate, Shows text certificate) ∨ ∃ fault, Defect text fault := by
  cases hparse : Pem.parse text with
  | error fault => exact .inr ⟨_, .framing hparse⟩
  | ok block =>
    by_cases htag : block.tag = "CERTIFICATE"
    · cases hread : read block.contents with
      | error failure => exact .inr ⟨_, .contents hparse htag hread⟩
      | ok certificate => exact .inl ⟨certificate, block, hparse, htag, hread⟩
    · exact .inr ⟨_, .tag hparse htag⟩

theorem shows_of_ofText_eq_ok (h : ofText text = .ok certificate) : Shows text certificate := by
  obtain ⟨shown, hshown⟩ | ⟨fault, hdefect⟩ := shows_or_defect text
  · cases h.symm.trans (ofText_of_shows hshown)
    exact hshown
  · cases h.symm.trans (ofText_of_defect hdefect)

theorem Shows.eq {other : Certificate} (h : Shows text certificate) (hother : Shows text other) :
    certificate = other :=
  Except.ok.inj ((ofText_of_shows h).symm.trans (ofText_of_shows hother))

theorem isPlainKeyTag_iff {tag : String} : isPlainKeyTag tag = true ↔ TagsPlainKey tag := by
  simp [isPlainKeyTag, TagsPlainKey, keyTag, ← List.isSuffixOf_iff_suffix,
    ← List.isPrefixOf_iff_prefix]

theorem checkPrivateKey_of_showsKey (h : ShowsKey text) : checkPrivateKey text = .ok () := by
  obtain ⟨block, hparse, htag⟩ := h
  have htag := isPlainKeyTag_iff.mpr htag
  simp [checkPrivateKey, Certificate.block, hparse, htag, bind, Except.bind, pure, Except.pure,
    mapError_ok]

theorem checkPrivateKey_of_defect (h : KeyDefect text fault) :
    checkPrivateKey text = .error fault := by
  cases h with
  | framing hparse =>
    simp [checkPrivateKey, Certificate.block, hparse, bind, Except.bind, mapError_error]
  | tag hparse htag =>
    rw [← isPlainKeyTag_iff, Bool.not_eq_true] at htag
    simp [checkPrivateKey, Certificate.block, hparse, htag, keyTag, bind, Except.bind,
      mapError_ok, throw, throwThe, MonadExceptOf.throw]

theorem showsKey_or_defect (text : String) : ShowsKey text ∨ ∃ fault, KeyDefect text fault := by
  cases hparse : Pem.parse text with
  | error fault => exact .inr ⟨_, .framing hparse⟩
  | ok block =>
    by_cases htag : TagsPlainKey block.tag
    · exact .inl ⟨block, hparse, htag⟩
    · exact .inr ⟨_, .tag hparse htag⟩

end Certificate

/-! ### The checks of the credentials -/

namespace Credentials

/-- The checks that credentials have to pass. -/
inductive Check where
  | blank
  | authority
  | identity
  | validity
  | key

namespace Check

/-- The place of a check in the order in which they are made. -/
def place : Check → Nat
  | blank => 0
  | authority => 1
  | identity => 2
  | validity => 3
  | key => 4

/-- What a check asks of credentials at a time. -/
def Passes (c : Credentials) (now : Int) : Check → Prop
  | blank => isBlankText c.authority = false ∧ isBlankText c.certificate = false
  | authority => ∃ shown, Certificate.Shows c.authority shown
  | identity => ∃ own, Certificate.Shows c.certificate own
  | validity => ∃ own, Certificate.Shows c.certificate own ∧
      own.notBefore ≤ now ∧ now < own.notAfter
  | key => Certificate.ShowsKey c.key

/-- What is said of credentials that fail a check. -/
inductive Raises (c : Credentials) : Check → Fault → Prop where
  | blank : Raises c blank .missingCertificate
  | authority {fault} : Certificate.Defect c.authority fault →
      Raises c authority (.certificate ("root CA: " ++ fault.message))
  | identity {fault} : Certificate.Defect c.certificate fault →
      Raises c identity (.certificate ("identity: " ++ fault.message))
  | validity {own} : Certificate.Shows c.certificate own →
      Raises c validity (.notValid own.commonName own.notAfter)
  | key {fault} : Certificate.KeyDefect c.key fault → Raises c key (.key fault.message)

/-- The check fails, and all that are made before it pass. -/
structure FailsFirst (c : Credentials) (now : Int) (check : Check) : Prop where
  fails : ¬check.Passes c now
  earlier : ∀ other : Check, other.place < check.place → other.Passes c now

variable {c : Credentials} {now : Int}

theorem exists_failsFirst (h : ¬∀ check : Check, check.Passes c now) :
    ∃ check : Check, check.FailsFirst c now := by
  obtain ⟨check, hfails⟩ := Classical.not_forall.mp h
  -- a check that fails, but not first, has one that fails before it
  induction check using (measure place).wf.induction with
  | _ check ih =>
    by_cases hearlier : ∀ other : Check, other.place < check.place → other.Passes c now
    · exact ⟨check, hfails, hearlier⟩
    · obtain ⟨other, hother⟩ := Classical.not_forall.mp hearlier
      obtain ⟨hplace, hother⟩ := Classical.not_imp.mp hother
      exact ih other hplace hother

theorem FailsFirst.exists_raises {check : Check} (h : check.FailsFirst c now) :
    ∃ fault, check.Raises c fault := by
  cases check with
  | blank => exact ⟨_, .blank⟩
  | authority =>
    obtain ⟨_, hdefect⟩ := (Certificate.shows_or_defect c.authority).resolve_left h.fails
    exact ⟨_, .authority hdefect⟩
  | identity =>
    obtain ⟨_, hdefect⟩ := (Certificate.shows_or_defect c.certificate).resolve_left h.fails
    exact ⟨_, .identity hdefect⟩
  | validity =>
    obtain ⟨_, hown⟩ := h.earlier .identity (by decide)
    exact ⟨_, .validity hown⟩
  | key =>
    obtain ⟨_, hdefect⟩ := (Certificate.showsKey_or_defect c.key).resolve_left h.fails
    exact ⟨_, .key hdefect⟩

end Check

/-! ### The credentials as a whole -/

variable {c : Credentials} {now : Int} {shown own : Certificate}

theorem validate_of_blank (h : ¬Check.blank.Passes c now) :
    c.validate now = .error .missingCertificate := by
  have hblank : isBlankText c.authority ∨ isBlankText c.certificate := by
    grind [Check.Passes]
  simp only [validate, if_pos hblank]
  rfl

/-- Texts that are not blank are read, and then the clock and the key are looked at. -/
theorem validate_of_not_blank (h : Check.blank.Passes c now) :
    c.validate now =
      ((Certificate.ofText c.authority).mapError fun f =>
        Fault.certificate ("root CA: " ++ f.message)).bind fun _ =>
      ((Certificate.ofText c.certificate).mapError fun f =>
        Fault.certificate ("identity: " ++ f.message)).bind fun own =>
      if own.isExpired now ∨ own.isNotYetValid now then
        .error (.notValid own.commonName own.notAfter)
      else (Certificate.checkPrivateKey c.key).mapError fun f => .key f.message := by
  have hblank : ¬(isBlankText c.authority ∨ isBlankText c.certificate) := by
    grind [Check.Passes]
  simp only [validate, if_neg hblank]
  refine congrArg _ (funext fun _ => congrArg _ (funext fun own => ?_))
  by_cases hclock : own.isExpired now ∨ own.isNotYetValid now
  · simp only [if_pos hclock]
    rfl
  · simp only [if_neg hclock]

/-- Once both certificates are read, what is left are the clock and the key. -/
theorem validate_of_shows (h : Check.blank.Passes c now)
    (hshown : Certificate.Shows c.authority shown) (hown : Certificate.Shows c.certificate own) :
    c.validate now =
      if own.isExpired now ∨ own.isNotYetValid now then
        .error (.notValid own.commonName own.notAfter)
      else (Certificate.checkPrivateKey c.key).mapError fun f => .key f.message := by
  rw [validate_of_not_blank h, Certificate.ofText_of_shows hshown,
    Certificate.ofText_of_shows hown]
  rfl

/-- The clock is within the validity of the certificate that the credentials show. -/
theorem Check.passes_validity_iff (hown : Certificate.Shows c.certificate own) :
    Check.validity.Passes c now ↔ ¬(own.isExpired now ∨ own.isNotYetValid now) := by
  have hclock : (own.notBefore ≤ now ∧ now < own.notAfter) ↔
      ¬(own.isExpired now ∨ own.isNotYetValid now) := by
    simp only [Certificate.isExpired, Certificate.isNotYetValid, decide_eq_true_eq]
    omega
  refine ⟨fun ⟨other, hother, htime⟩ => ?_, fun h => ⟨own, hown, hclock.mpr h⟩⟩
  rw [hown.eq hother] at hclock ⊢
  exact hclock.mp htime

/-- Credentials that pass every check are valid. -/
theorem validate_of_passes (h : ∀ check : Check, check.Passes c now) :
    c.validate now = .ok () := by
  obtain ⟨shown, hshown⟩ := h .authority
  obtain ⟨own, hown⟩ := h .identity
  have hclock := (Check.passes_validity_iff hown).mp (h .validity)
  rw [validate_of_shows (h .blank) hshown hown, if_neg hclock,
    Certificate.checkPrivateKey_of_showsKey (h .key)]
  rfl

/-- The first check that fails decides what is said. -/
theorem validate_of_failsFirst {check : Check} {fault : Fault} (h : check.FailsFirst c now)
    (hfault : check.Raises c fault) : c.validate now = .error fault := by
  cases hfault with
  | blank => exact validate_of_blank h.fails
  | authority hdefect =>
    have hblank := h.earlier .blank (by decide)
    rw [validate_of_not_blank hblank, Certificate.ofText_of_defect hdefect]
    rfl
  | identity hdefect =>
    have hblank := h.earlier .blank (by decide)
    obtain ⟨shown, hshown⟩ := h.earlier .authority (by decide)
    rw [validate_of_not_blank hblank, Certificate.ofText_of_shows hshown,
      Certificate.ofText_of_defect hdefect]
    rfl
  | validity hown =>
    have hblank := h.earlier .blank (by decide)
    obtain ⟨shown, hshown⟩ := h.earlier .authority (by decide)
    have hclock := Classical.not_not.mp (mt (Check.passes_validity_iff hown).mpr h.fails)
    rw [validate_of_shows hblank hshown hown, if_pos hclock]
  | key hdefect =>
    have hblank := h.earlier .blank (by decide)
    obtain ⟨shown, hshown⟩ := h.earlier .authority (by decide)
    obtain ⟨own, hown⟩ := h.earlier .identity (by decide)
    have hclock := (Check.passes_validity_iff hown).mp (h.earlier .validity (by decide))
    rw [validate_of_shows hblank hshown hown, if_neg hclock,
      Certificate.checkPrivateKey_of_defect hdefect]
    rfl

end Credentials

/-! ### Connections -/

namespace Connector

open Credentials (Check)

/-- The address has a host, and the credentials pass every check. -/
structure Admissible (c : Credentials) (now : Int) (address : String) : Prop where
  host : ∃ host, Endpoint.host address = .ok host
  checks : ∀ check : Check, check.Passes c now

/-- What is asked of admissible material besides: that the address can stand in a URI, and that a
handshake is possible under the name of the host. -/
structure Dialable (c : Credentials) (address : String) : Prop where
  uri : Uri.check ("https://" ++ address) = .ok ()
  handshake : c.supportsHandshake
  name : ∀ host, Endpoint.host address = .ok host → ServerName.isValid host

/-- Why there is no connection: the address has no host, or else the credentials fail a check. -/
inductive Refusal (c : Credentials) (now : Int) (address : String) : Error → Prop where
  | address {fault} : Endpoint.host address = .error fault →
      Refusal c now address (.invalidAddress address fault.message)
  | credentials {host fault} {check : Check} : Endpoint.host address = .ok host →
      check.FailsFirst c now → check.Raises c fault →
      Refusal c now address (.credentials address fault)

variable {c : Credentials} {now : Int} {address : String}

theorem exists_refusal (h : ¬Admissible c now address) : ∃ e, Refusal c now address e := by
  cases hhost : Endpoint.host address with
  | error fault => exact ⟨_, .address hhost⟩
  | ok host =>
    have hchecks : ¬∀ check : Check, check.Passes c now := fun hpass => h ⟨⟨host, hhost⟩, hpass⟩
    obtain ⟨check, hfirst⟩ := Check.exists_failsFirst hchecks
    obtain ⟨fault, hfault⟩ := hfirst.exists_raises
    exact ⟨_, .credentials hhost hfirst hfault⟩

theorem Refusal.not_admissible {e : Error} (h : Refusal c now address e) :
    ¬Admissible c now address := by
  intro hadmissible
  cases h with
  | address hhost =>
    obtain ⟨host, hok⟩ := hadmissible.host
    cases hhost.symm.trans hok
  | credentials hhost hfirst hfault => exact hfirst.fails (hadmissible.checks _)

theorem prepare_of_refusal {e : Error} (h : Refusal c now address e) :
    prepare c now address = .error e := by
  cases h with
  | address hhost =>
    rw [prepare, hhost]
    rfl
  | credentials hhost hfirst hfault =>
    rw [prepare, hhost]
    simp only [Credentials.validate_of_failsFirst hfirst hfault]
    rfl

/-- Behind a host and valid credentials the URI is looked at, and then the handshake. -/
theorem prepare_of_validate {host : String} (hhost : Endpoint.host address = .ok host)
    (hvalidate : c.validate now = .ok ()) :
    prepare c now address =
      ((Uri.check ("https://" ++ address)).mapError fun _ =>
        Error.invalidAddress address "invalid URI").bind fun _ =>
      if c.supportsHandshake && ServerName.isValid host then .ok ()
      else .error (.credentials address (.tls "transport error")) := by
  simp only [prepare, hhost, hvalidate]
  cases Uri.check ("https://" ++ address) with
  | error fault => rfl
  | ok _ =>
    show (if !(c.supportsHandshake && ServerName.isValid host) then _ else _ : Except Error Unit) =
      if c.supportsHandshake && ServerName.isValid host then _ else _
    cases c.supportsHandshake && ServerName.isValid host <;> rfl

theorem prepare_of_admissible (h : Admissible c now address) :
    prepare c now address = .ok () ↔ Dialable c address := by
  obtain ⟨host, hhost⟩ := h.host
  rw [prepare_of_validate hhost (Credentials.validate_of_passes h.checks)]
  constructor
  · intro hok
    obtain ⟨_, huri, hrest⟩ := exists_of_bind_eq_ok hok
    split at hrest
    · rename_i hshake
      obtain ⟨hshake, hname⟩ := (Bool.and_eq_true _ _).mp hshake
      refine ⟨eq_ok_of_mapError_eq_ok huri, hshake, fun other hother => ?_⟩
      cases hhost.symm.trans hother
      exact hname
    · cases hrest
  · rintro ⟨huri, hshake, hname⟩
    rw [huri, hshake, hname host hhost]
    rfl

/-- A connection is prepared for admissible material only. Whatever is not admissible is refused,
for its address before anything else and then for the first check that fails. -/
theorem prepare_fails_closed (c : Credentials) (now : Int) (address : String) :
    (prepare c now address = .ok () ↔ Admissible c now address ∧ Dialable c address) ∧
      (¬Admissible c now address ↔ ∃ e, Refusal c now address e) ∧
      ∀ e, Refusal c now address e → prepare c now address = .error e := by
  refine ⟨⟨fun hok => ?_, fun ⟨h, hdial⟩ => (prepare_of_admissible h).mpr hdial⟩,
    ⟨exists_refusal, fun ⟨_, h⟩ => h.not_admissible⟩, fun _ => prepare_of_refusal⟩
  have hadmissible : Admissible c now address := by
    refine Classical.byContradiction fun hnot => ?_
    obtain ⟨e, hrefusal⟩ := exists_refusal hnot
    cases hok.symm.trans (prepare_of_refusal hrefusal)
  exact ⟨hadmissible, (prepare_of_admissible hadmissible).mp hok⟩

/-- A certificate of the year 2000, for nobody. -/
def expiredText : String :=
  "-----BEGIN CERTIFICATE-----\n" ++
    "MEAwNgIBATADBgEqMAAwHhcNMDAwMTAxMDAwMDAwWhcNMDEwMTAxMDAwMDAwWjAAMAgwAwYBKgMBADADBgEqAwEA\n" ++
    "-----END CERTIFICATE-----\n"

theorem shows_expiredText : Certificate.Shows expiredText ⟨946684800, 978307200, ""⟩ := by
  have hread : (Certificate.ofText expiredText).toOption = some ⟨946684800, 978307200, ""⟩ := by
    decide +kernel
  refine Certificate.shows_of_ofText_eq_ok ?_
  cases hcertificate : Certificate.ofText expiredText with
  | error fault => rw [hcertificate] at hread; cases hread
  | ok certificate =>
    rw [hcertificate] at hread
    exact congrArg Except.ok (Option.some.inj hread)

/-- An expired certificate is refused, and the key, which is missing, is not looked at. -/
theorem prepare_fails_closed_expired :
    Refusal ⟨expiredText, "", expiredText⟩ 1767225600 "agent:8080"
        (.credentials "agent:8080" (.notValid "" 978307200)) ∧
      prepare ⟨expiredText, "", expiredText⟩ 1767225600 "agent:8080" =
        .error (.credentials "agent:8080" (.notValid "" 978307200)) := by
  have hshows := shows_expiredText
  have hblank : Credentials.isBlankText expiredText = false := by decide +kernel
  have hexpired : ¬Check.validity.Passes ⟨expiredText, "", expiredText⟩ 1767225600 := by
    rintro ⟨own, hown, -, hbefore⟩
    cases hshows.eq hown
    revert hbefore
    decide
  have hfirst : Check.validity.FailsFirst ⟨expiredText, "", expiredText⟩ 1767225600 := by
    refine ⟨hexpired, fun other hplace => ?_⟩
    cases other with
    | blank => exact ⟨hblank, hblank⟩
    | authority | identity => exact ⟨_, hshows⟩
    | validity | key => exact absurd hplace (by decide)
  have hhost : Endpoint.host "agent:8080" = .ok "agent" := by rfl
  have hrefusal := Refusal.credentials hhost hfirst (.validity hshows)
  exact ⟨hrefusal, (prepare_fails_closed _ _ _).2.2 _ hrefusal⟩

end Connector

end AgentRelay
