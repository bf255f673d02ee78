import Custody.Proofs.Password
import Custody.Proofs.Wallet.Refusal

/-!
# `Custody.Proofs.Wallet.Gate`: the password of a new wallet

A new wallet is made under a strong password only. A weak one is refused before anything else is
done, with its rating (`create_of_weak`), and a strong one is never refused as weak: what can fail
after the gate is sealing and the store (`install_eq_error_cases`). `strong_passwords_pass` puts
this together with what a strong password is.
-/

set_option autoImplicit false

namespace Custody.Wallet

open Command Password Text

variable {settings : Settings} {password : String} {world after : World} {e : WalletError}

/-- What can go wrong when a wallet is put in place. -/
theorem install_eq_error_cases {keypair : Keypair} {phrase : String}
    (h : (install settings keypair phrase password).runIn world = (.error e, after)) :
    (∃ reason, e = .sealing reason) ∨ ∃ s, e = .storage s := by
  unfold install at h
  rw [runIn_bind, runIn_now] at h
  rcases runIn_bind_eq_error.mp h with hmake | ⟨record, between, -, hrest⟩
  · rw [runIn_onTape] at hmake
    injection hmake with hresult
    exact .inl (Record.make_eq_error hresult)
  · have hcommits : Commits (some record) false _ :=
      commits_install rfl settings.session keypair.secretHex
    obtain ⟨writes, -, -, hstorage⟩ := hcommits between
    rw [hrest] at hstorage
    exact .inr (hstorage e rfl)

/-- A weak password is refused with its rating, and the world is as it was. -/
theorem create_of_weak (h : ¬ (strength password).isStrong = true) :
    (create settings password).runIn world
      = (.error (.weakPassword (strength password).score (strength password).feedback), world) := by
  unfold create
  simp only [if_neg h]
  rfl

/-- A strong one is not refused as weak, whatever else may go wrong. -/
theorem create_of_strong (h : (strength password).isStrong = true) {score : UInt8}
    {feedback : List String} :
    ((create settings password).runIn world).1 ≠ .error (.weakPassword score feedback) := by
  intro hweak
  unfold create at hweak
  simp only [if_pos h] at hweak
  rcases runIn_bind_eq_error.mp (Prod.ext hweak rfl) with hphrase | ⟨phrase, between, -, hrest⟩
  · cases hphrase
  · rcases runIn_bind_eq_error.mp hrest with hinstall | ⟨record, between', -, hpure⟩
    · rcases install_eq_error_cases hinstall with ⟨reason, he⟩ | ⟨s, he⟩
      · cases he
      · cases he
    · cases hpure

/-- What a strong password is, what a password is rated at, and that a new wallet asks for a strong
one. Letters outside ASCII do not matter for the beginning, in whichever way the password is
lowered. The score is the number of rules met, less two for a common beginning but not below zero,
and there is an advice for each rule that is not met and one for a common beginning. So there is
none just if the password is strong. A strong password stays strong whatever is appended. Making a
wallet is refused on account of the password just if that is weak, with this rating and before
anything has been done. -/
theorem strong_passwords_pass (settings : Settings) (password : String) (world : World) :
    ((strength password).isStrong = true ↔ IsStrong password)
      ∧ (∀ lowered, LowersTo password.toList lowered →
        ((∃ pattern ∈ commonPrefixes, pattern.toList <+: lowered) ↔ StartsCommonly password))
      ∧ ((strength password).score.toNat : Int)
        = max 0 ((met password : Int) - 2 * (penalty password : Int))
      ∧ ((strength password).feedback.length : Int)
        = (4 - (met password : Int)) + (penalty password : Int)
      ∧ ((strength password).feedback = [] ↔ IsStrong password)
      ∧ (IsStrong password → ∀ more, (strength (password ++ more)).isStrong = true)
      ∧ ((∃ score feedback, ((create settings password).runIn world).1
          = .error (.weakPassword score feedback)) ↔ ¬ IsStrong password)
      ∧ (¬ IsStrong password → (create settings password).runIn world
        = (.error (.weakPassword (strength password).score (strength password).feedback),
          world)) := by
  obtain ⟨hscore, hfeedback, -⟩ := strength_eq password
  have hle := met_le password
  have hstrong := isStrong_strength_iff password
  refine ⟨hstrong, fun lowered => startsCommonly_iff password, ?_, ?_, ?_, ?_, ?_, ?_⟩
  · omega
  · omega
  · rw [← List.length_eq_zero_iff, isStrong_iff]
    omega
  · intro h more
    exact (isStrong_strength_iff _).mpr (h.append more)
  · rw [← hstrong]
    constructor
    · rintro ⟨score, feedback, h⟩ hpass
      exact create_of_strong hpass h
    · intro h
      rw [create_of_weak h]
      exact ⟨_, _, rfl⟩
  · intro h
    exact create_of_weak (mt hstrong.mp h)

/-- A password that begins as many do is refused, in capitals too: two of its four points are gone.
One with the same beginning further on is strong, and stays so. -/
theorem strong_passwords_pass_capitals :
    let settings : Settings := ⟨.ofSeconds 1800, .light⟩
    let world := World.calm ⟨Store.empty, .epoch, .ofBytes [7]⟩ .epoch
    let weak := strength "QWERTY-Secure-99"
    weak.score.toNat = 2 ∧ weak.feedback.length = 1
      ∧ (∃ pattern ∈ commonPrefixes, pattern.toList <+: lower "QWERTY-Secure-99".toList)
      ∧ (create settings "QWERTY-Secure-99").runIn world
        = (.error (.weakPassword weak.score weak.feedback), world)
      ∧ (strength ("Secure-99-QWERTY" ++ "\u212a")).isStrong = true
      ∧ ¬ ∃ score feedback, ((create settings "Secure-99-QWERTY").runIn world).1
        = .error (.weakPassword score feedback) := by
  intro settings world weak
  have hcommon : StartsCommonly "QWERTY-Secure-99" := by decide +kernel
  have hweak : ¬ IsStrong "QWERTY-Secure-99" := fun h => h.2.2.2.2 hcommon
  have hstrong : IsStrong "Secure-99-QWERTY" := by decide +kernel
  obtain ⟨-, hbegins, hscore, hfeedback, -, -, -, hrefused⟩ :=
    strong_passwords_pass settings "QWERTY-Secure-99" world
  obtain ⟨-, -, -, -, -, hmore, hpasses, -⟩ :=
    strong_passwords_pass settings "Secure-99-QWERTY" world
  have hmet : met "QWERTY-Secure-99" = 4 := by decide +kernel
  have hpenalty : penalty "QWERTY-Secure-99" = 1 := if_pos hcommon
  rw [hmet, hpenalty] at hscore hfeedback
  refine ⟨?_, ?_, (hbegins _ (lowersTo_lower _)).mpr hcommon, hrefused hweak, hmore hstrong _,
    fun h => hpasses.mp h hstrong⟩
  · show (strength "QWERTY-Secure-99").score.toNat = 2
    omega
  · show (strength "QWERTY-Secure-99").feedback.length = 1
    omega

end Custody.Wallet
