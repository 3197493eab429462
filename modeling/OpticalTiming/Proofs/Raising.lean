import OpticalTiming.Design.Basic

/-!
# The errors that procedures raise

A failed dispatch, a cancelled wait and a value that is missing are found out by the bench. Every
other error is raised by a procedure itself, `Error.isRaised`: when it refuses an argument, when a
timeout has passed, or when numbers do not fit. The checks on the way through a call raise no error
of the bench.
-/

namespace OpticalTiming

/-- Whether an error is raised by procedures, and not found out by a bench. -/
def Error.isRaised : Error → Bool
  | bus _ | cancelled | notDispatched _ => false
  | _ => true

theorem Error.isRaised_of_isLinkFailure {e : Error} (h : e.isLinkFailure) : e.isRaised := by
  cases e <;> first | rfl | cases h

/-- Whether a result is no error of the bench. -/
def Raises {α : Type} (result : Except Error α) : Prop :=
  ∀ e, result = .error e → e.isRaised = true

section

variable {α β : Type}

theorem raises_ok (a : α) : Raises (.ok a) := by rintro e ⟨⟩

theorem raises_error {e : Error} (h : e.isRaised = true) : Raises (.error e : Except Error α) := by
  rintro _ ⟨⟩
  exact h

theorem Raises.bind {result : Except Error α} {f : α → Except Error β} (h : Raises result)
    (hf : ∀ a, Raises (f a)) : Raises (result >>= f) := by
  cases result with
  | ok a => exact hf a
  | error e => exact raises_error (h e rfl)

theorem raises_ite {p : Prop} [Decidable p] {first second : Except Error α} (hfirst : Raises first)
    (hsecond : Raises second) : Raises (if p then first else second) := by
  split
  · exact hfirst
  · exact hsecond

end

/-! ### Arguments -/

theorem raises_checkTarget (address : EndpointAddress) : Raises address.checkTarget :=
  raises_ite (raises_ok ()) (raises_error rfl)

theorem raises_checkChannel_mux (mux : FanoutMux) (channel : MuxChannel) :
    Raises (mux.checkChannel channel) :=
  raises_ite (raises_ok ()) (raises_error rfl)

theorem raises_checkChannel (calibration : Calibration) (channel? : Option MuxChannel) :
    Raises (calibration.checkChannel channel?) := by
  have hmuxFor : ∀ channel, Raises (calibration.muxFor channel) := by
    intro channel
    unfold Calibration.muxFor
    split
    · exact raises_error rfl
    · rename_i mux _
      exact (raises_checkChannel_mux mux channel).bind fun _ => raises_ok mux
  cases channel? with
  | none => exact raises_ok ()
  | some channel => exact (hmuxFor channel).bind fun _ => raises_ok ()

/-! ### Numbers -/

theorem raises_ofUtc (time : UtcTime) (hz : UInt64) : Raises (TimestampWord.ofUtc time hz) :=
  raises_ite (raises_error rfl) (raises_ite (raises_ok _) (raises_error rfl))

theorem raises_get (snapshot : Snapshot) (leaf : String) : Raises (snapshot.get leaf) := by
  unfold Snapshot.get
  split
  · exact raises_ok _
  · exact raises_error rfl

theorem raises_between (transmit receive : TimestampWord) :
    Raises (RoundTrip.between transmit receive) :=
  raises_ite (raises_ok _) (raises_error rfl)

end OpticalTiming
