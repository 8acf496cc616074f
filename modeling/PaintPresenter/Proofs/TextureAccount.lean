import PaintPresenter.Proofs.Conduct

/-!
# The account of the held texture

Ownership of the texture moves back and forth during an upload, past three calls that may fail.
The account says what this comes to: of all textures ever created, the latest is held or released,
and all others were released in the order of their creation. `texture_symmetry` states it for every
sequence of uploads and clears over every stack, together with what each upload may call, what it
returns and what it leaves when a call fails.
-/

namespace PaintPresenter

variable {τ ρ γ : Type}

namespace Exchange

/-- The texture that was created, with the size of the pixels that it was created from. -/
def creates? : Exchange (Graphics τ ρ) γ → Option (τ × Extent)
  | ⟨.createTexture pixels, .ok texture, _⟩ => some (texture, pixels.extent)
  | _ => none

/-- The texture that was released. -/
def releases? : Exchange (Graphics τ ρ) γ → Option τ
  | ⟨.releaseTexture texture, _, _⟩ => some texture
  | _ => none

/-- The error of a call on the way of an upload. -/
def uploadError? : Exchange (Graphics τ ρ) γ → Option GraphicsError
  | ⟨.waitIdle, .error e, _⟩ => some e
  | ⟨.createTexture _, .error e, _⟩ => some e
  | ⟨.updateTexture _ _, .error e, _⟩ => some e
  | _ => none

end Exchange

namespace HeldTexture

/-- What the owner of the texture asks for. -/
inductive Request
  | upload (pixels : PixelBuffer)
  | clear

/-- Does what one request asks for. -/
def perform : Request → StateT (HeldTexture τ) (Program (Graphics τ ρ)) Unit
  | .upload pixels => fun held => do
    let (_, held) ← (upload pixels).run held
    return ((), held)
  | .clear => clear

/-- Does what requests ask for, one after the other. -/
def serve : List Request → StateT (HeldTexture τ) (Program (Graphics τ ρ)) Unit
  | [] => fun held => return ((), held)
  | request :: later => fun held => do
    let ((), held) ← perform request held
    serve later held

/-- Of all textures created, `current` is the only one that was not released; every other one was
released once. Exchanges are listed latest first. -/
def Outstanding (current : Option (τ × Extent)) (history : List (Exchange (Graphics τ ρ) γ)) :
    Prop :=
  ∃ gone, history.filterMap Exchange.creates? = current.toList ++ gone ∧
    history.filterMap Exchange.releases? = gone.map Prod.fst

/-- The call may be made by `request`, which has exchanged `own` so far, after earlier requests
that exchanged `earlier`. -/
def MayCall (request : Request) (earlier own : List (Exchange (Graphics τ ρ) γ)) :
    GraphicsCall τ → Prop
  | .createTexture pixels => request = .upload pixels ∧ Outstanding none (own ++ earlier)
  | .updateTexture texture pixels => request = .upload pixels ∧ own = [] ∧
    Outstanding (some (texture, pixels.extent)) earlier
  | .waitIdle => ∃ pixels texture size, request = .upload pixels ∧ own = [] ∧
    Outstanding (some (texture, size)) earlier ∧ size ≠ pixels.extent
  | .releaseTexture texture => (∃ size, Outstanding (some (texture, size)) (own ++ earlier)) ∧
    match request with
    | .upload _ => ∃ idle, own = [⟨.waitIdle, .ok (), idle⟩]
    | .clear => own = []
  | _ => False

/-- What an upload reports that goes well. -/
def outcomeOf (held : HeldTexture τ) (pixels : PixelBuffer) : UploadOutcome :=
  match held.current with
  | none => .created
  | some (_, size) => if size = pixels.extent then .updated else .recreated

/-- What an upload leaves when the last call that it made failed. -/
def afterFailed (held : HeldTexture τ) : GraphicsCall τ → HeldTexture τ
  | .createTexture _ => ⟨none⟩
  | _ => held

/-- What an upload into `held` that exchanged `own` returns and leaves: it goes well when every call
does, and ends with the first call that fails. -/
def Uploads (held : HeldTexture τ) (pixels : PixelBuffer)
    (own : List (Exchange (Graphics τ ρ) γ)) :
    Except GraphicsError UploadOutcome → HeldTexture τ → Prop
  | .ok outcome, after => outcome = held.outcomeOf pixels ∧
    (∀ x ∈ own, x.uploadError? = none) ∧ ∃ texture, after.current = some (texture, pixels.extent)
  | .error e, after => ∃ failed before, own = failed :: before ∧ failed.uploadError? = some e ∧
    (∀ x ∈ before, x.uploadError? = none) ∧ after = held.afterFailed failed.call

namespace Outstanding

variable {current : Option (τ × Extent)} {history : List (Exchange (Graphics τ ρ) γ)}

/-- At first no texture is outstanding. -/
theorem nil : Outstanding none ([] : List (Exchange (Graphics τ ρ) γ)) := ⟨[], rfl, rfl⟩

/-- A texture is created where none is held. -/
theorem create (outstanding : Outstanding none history) (pixels : PixelBuffer) (texture : τ)
    (t : γ) :
    Outstanding (some (texture, pixels.extent))
      (⟨.createTexture pixels, .ok texture, t⟩ :: history) := by
  obtain ⟨gone, created, released⟩ := outstanding
  exact ⟨gone, congrArg ((texture, pixels.extent) :: ·) created, released⟩

/-- The texture that is held may be released. -/
theorem release {texture : τ} {size : Extent}
    (outstanding : Outstanding (some (texture, size)) history) (t : γ) :
    Outstanding none (⟨.releaseTexture texture, (), t⟩ :: history) := by
  obtain ⟨gone, created, released⟩ := outstanding
  exact ⟨(texture, size) :: gone, created, congrArg (texture :: ·) released⟩

/-- No other call changes the account. -/
theorem pass (outstanding : Outstanding current history) {x : Exchange (Graphics τ ρ) γ}
    (creates : x.creates? = none) (releases : x.releases? = none) :
    Outstanding current (x :: history) := by
  obtain ⟨gone, created, released⟩ := outstanding
  refine ⟨gone, ?_, ?_⟩
  · rw [List.filterMap_cons_none creates, created]
  · rw [List.filterMap_cons_none releases, released]

end Outstanding

end HeldTexture

/-! ## Every request keeps the account -/

namespace Contract

variable {W : Program.World (Graphics τ ρ) γ} {earlier : List (Exchange (Graphics τ ρ) γ)}
  {held : HeldTexture τ} {t : γ}

open HeldTexture

private theorem upload_accounts (outstanding : Outstanding held.current earlier)
    (pixels : PixelBuffer) :
    (watched W fun _ => MayCall (.upload pixels) earlier).KeepsOp (upload pixels) held (t, [])
      (fun outcome after s => Outstanding after.current (s.2 ++ earlier) ∧
        held.Uploads pixels s.2 (.ok outcome) after)
      fun e after s => Outstanding after.current (s.2 ++ earlier) ∧
        held.Uploads pixels s.2 (.error e) after := by
  rw [keepsOp_heldUpload]
  obtain ⟨_ | ⟨texture, size⟩⟩ := held
  · simp only [keepsTask_createTexture, watched_permits, Prod.forall, watched_step, and_imp,
      forall_eq]
    refine ⟨⟨rfl, outstanding⟩, fun texture u _ => ?_, fun e u _ => ?_⟩
    · exact ⟨outstanding.create pixels texture u, rfl, by simp [Exchange.uploadError?], texture,
        rfl⟩
    · exact ⟨outstanding.pass rfl rfl, _, [], rfl, rfl, by simp, rfl⟩
  · by_cases same : size = pixels.extent
    · subst same
      simp only [if_true, keepsTask_updateTexture, watched_permits, Prod.forall, watched_step,
        and_imp, forall_eq]
      refine ⟨⟨rfl, rfl, outstanding⟩, fun u _ => ?_, fun e u _ => ?_⟩
      · exact ⟨outstanding.pass rfl rfl, by simp [outcomeOf], by simp [Exchange.uploadError?],
          texture, rfl⟩
      · exact ⟨outstanding.pass rfl rfl, _, [], rfl, rfl, by simp, rfl⟩
    · simp only [if_neg same, keepsTask_waitIdle, keeps_releaseTexture, keepsTask_createTexture,
        watched_permits, Prod.forall, watched_step, and_imp, forall_eq]
      refine ⟨⟨pixels, texture, size, rfl, rfl, outstanding, same⟩, fun u _ => ?_, fun e u _ => ?_⟩
      · have idle := outstanding.pass (x := ⟨.waitIdle, .ok (), u⟩) rfl rfl
        refine ⟨⟨⟨size, idle⟩, u, rfl⟩, fun v _ => ?_⟩
        have free := idle.release v
        refine ⟨⟨rfl, free⟩, fun new w _ => ?_, fun e w _ => ?_⟩
        · exact ⟨free.create pixels new w, by simp [outcomeOf, same],
            by simp [Exchange.uploadError?], new, rfl⟩
        · exact ⟨free.pass rfl rfl, _, _, rfl, rfl, by simp [Exchange.uploadError?], rfl⟩
      · exact ⟨outstanding.pass rfl rfl, _, [], rfl, rfl, by simp, rfl⟩

private theorem perform_accounts (outstanding : Outstanding held.current earlier)
    (request : Request) :
    (watched W fun _ => MayCall request earlier).Keeps (perform request held) (t, [])
      fun out s => Outstanding out.2.current (s.2 ++ earlier) := by
  cases request with
  | upload pixels =>
    rw [perform, keeps_bind, keeps_run]
    exact (upload_accounts outstanding pixels).mono (fun _ _ _ h => h.1) fun _ _ _ h => h.1
  | clear =>
    rw [perform, keeps_clear]
    obtain ⟨_ | ⟨texture, size⟩⟩ := held
    · exact outstanding
    · simp only [keeps_releaseTexture, watched_permits, Prod.forall, watched_step, and_imp,
        forall_eq]
      exact ⟨⟨⟨size, outstanding⟩, rfl⟩, fun u _ => outstanding.release u⟩

private theorem serve_accounts {history : List (Exchange (Graphics τ ρ) γ)}
    (outstanding : Outstanding held.current history) (requests : List Request) :
    (watched W fun _ _ _ => True).Keeps (serve requests held) (t, history)
      fun out s => Outstanding out.2.current s.2 := by
  induction requests generalizing held t history with
  | nil => exact outstanding
  | cons request later ih =>
    rw [serve, keeps_bind]
    apply (perform_accounts outstanding request).continued.mono
    rintro ⟨_, held'⟩ ⟨u, _⟩ ⟨own, rfl, outstanding⟩
    exact ih outstanding

end Contract

open HeldTexture in
/-- Whatever uploads and clears are asked for and whatever fails: the texture that is held is the
only one that was created and not released, every further call fits the account, and every further
upload returns and leaves what its calls say. -/
theorem texture_symmetry {W : Program.World (Graphics τ ρ) γ} {s t : γ} (requests : List Request)
    {held : HeldTexture τ} {earlier : List (Exchange (Graphics τ ρ) γ)}
    (served : (serve requests {}).Ends W.recorded (s, []) ((), held) (t, earlier)) :
    Outstanding held.current earlier ∧
    (∀ request call u own, (perform request held).Makes W.recorded (t, []) call (u, own) →
      MayCall request earlier own call) ∧
    ∀ pixels result after u own,
      ((upload pixels).run held).Ends W.recorded (t, []) (result, after) (u, own) →
        held.Uploads pixels own result after := by
  have outstanding := (Contract.serve_accounts Outstanding.nil requests).ends served
  refine ⟨outstanding, fun request call u own makes => ?_, fun pixels result after u own ends => ?_⟩
  · exact (Contract.perform_accounts outstanding request).permits makes
  · have promised := Contract.Keeps.ends (Contract.upload_accounts outstanding pixels) ends
    cases result with
    | ok outcome => exact promised.2
    | error e => exact promised.2

private theorem isEmpty_one : (⟨1, 1⟩ : Extent).isEmpty = false := rfl

/-- One pixel. -/
def onePixel : PixelBuffer := ⟨⟨1, 1⟩, .rgba, ⟨#[1, 2, 3, 4]⟩, isEmpty_one, rfl⟩

/-- Two pixels side by side. -/
def twoPixels : PixelBuffer := ⟨⟨2, 1⟩, .rgba, ⟨#[1, 2, 3, 4, 5, 6, 7, 8]⟩, rfl, rfl⟩

/-- A texture that is replaced by one of another size, which cannot be created. -/
def failedReplacement : List (Exchange (Graphics Nat Unit) Unit) :=
  [⟨.createTexture twoPixels, .error .noCompatibleMemory, ()⟩, ⟨.releaseTexture 7, (), ()⟩,
    ⟨.waitIdle, .ok (), ()⟩, ⟨.createTexture onePixel, .ok 7, ()⟩]

/-- A creation that goes well. -/
def creation : List (Exchange (Graphics Nat Unit) Unit) :=
  [⟨.createTexture onePixel, .ok 8, ()⟩]

private theorem ends_with_failedReplacement :
    (HeldTexture.serve [.upload onePixel, .upload twoPixels] {}).Ends
      (anyStack Nat Unit).recorded ((), []) ((), {}) ((), failedReplacement) := by
  refine .call (.ok 7) ((), failedReplacement.drop 3) ⟨trivial, rfl⟩ ?_
  refine .note ?_
  refine .call (.ok ()) ((), failedReplacement.drop 2) ⟨trivial, rfl⟩ ?_
  refine .call () ((), failedReplacement.drop 1) ⟨trivial, rfl⟩ ?_
  refine .call (.error .noCompatibleMemory) ((), failedReplacement) ⟨trivial, rfl⟩ ?_
  exact .done

/-- After a replacement that failed nothing is outstanding, and an upload creates a texture. -/
theorem texture_symmetry_after_failedReplacement :
    HeldTexture.Outstanding none failedReplacement ∧
      HeldTexture.MayCall (.upload onePixel) failedReplacement [] (.createTexture onePixel) ∧
      HeldTexture.Uploads {} onePixel creation (.ok .created) ⟨some (8, onePixel.extent)⟩ := by
  obtain ⟨outstanding, calls, uploads⟩ :=
    texture_symmetry [.upload onePixel, .upload twoPixels] ends_with_failedReplacement
  refine ⟨outstanding, calls (.upload onePixel) _ () [] .here, uploads _ _ _ () _ ?_⟩
  exact .call (.ok 8) ((), creation) ⟨trivial, rfl⟩ .done

end PaintPresenter
