import Screencast.Proofs.Cast.Launch
import Screencast.Proofs.Device.Devices
import Screencast.Request.Run

/-!
The stages of the work on a request: what each of them returns, writes and starts, given how the
stage before it ended.
-/

namespace Screencast

open Session

namespace Request

variable {host : Host} {request : Request}

/-! ### Telling what was found -/

lemma calls_report (json : Bool) (devices : List Device) : (report json devices).calls = [] := by
  unfold report
  split
  · exact calls_writeLine _
  · split
    · exact calls_writeLine _
    · exact calls_writeLines _

/-- The devices are reported on the standard output only. -/
lemma stderr_report (json : Bool) (devices : List Device) : (report json devices).stderr = [] := by
  unfold report
  split
  · rfl
  · split
    · rfl
    · exact stderr_writeLines _

lemma calls_announce (verbose : Bool) (devices : List Device) :
    (announce verbose devices).calls = [] := by
  unfold announce
  split
  · exact calls_writeLines _
  · rfl

lemma calls_advise (devices : List Device) (serial : String) (audio : Bool) :
    (advise devices serial audio).calls = [] := by
  unfold advise
  split
  · rfl
  · split <;> rfl

/-- The devices are not told of in the log. -/
lemma records_report (json : Bool) (devices : List Device) : (report json devices).records = [] := by
  unfold report
  split
  · exact records_writeLine _
  · split
    · exact records_writeLine _
    · exact records_writeLines _

lemma records_announce (verbose : Bool) (devices : List Device) :
    (announce verbose devices).records = [] := by
  unfold announce
  split
  · exact records_writeLines _
  · rfl

lemma stderr_announce (verbose : Bool) (devices : List Device) :
    (announce verbose devices).stderr = [] := by
  unfold announce
  split
  · exact stderr_writeLines _
  · rfl

/-- Advice is given in the log only. -/
lemma quiet_advise (devices : List Device) (serial : String) (audio : Bool) :
    (advise devices serial audio).Quiet := by
  unfold advise
  split
  · exact Quiet.log ..
  · split
    · exact Quiet.log ..
    · exact Quiet.pure _

/-! ### Casting -/

lemma cast_nil (serial : String) :
    cast host request serial [] =
      Session.complainLine noDevicesMessage >>= fun _ => pure .noDevices := rfl

lemma value_launch (serial : String) :
    (launch host request serial).value =
      match ((request.castOptions serial).launch host request.castTool).value with
      | .ok () => .launched
      | .error _ => .failed := by
  unfold launch
  rw [value_bind]
  rcases ((request.castOptions serial).launch host request.castTool).value with error | ⟨⟩ <;> rfl

lemma calls_launch (serial : String) :
    (launch host request serial).calls =
      ((request.castOptions serial).launch host request.castTool).calls := by
  unfold launch
  rw [calls_bind]
  rcases ((request.castOptions serial).launch host request.castTool).value with error | ⟨⟩ <;>
    simp only [calls_bind, calls_log, calls_pure, List.append_nil]

lemma stdout_launch (serial : String) :
    (launch host request serial).stdout =
      ((request.castOptions serial).launch host request.castTool).stdout := by
  unfold launch
  rw [stdout_bind]
  rcases ((request.castOptions serial).launch host request.castTool).value with error | ⟨⟩ <;>
    exact List.append_nil _

/-- What goes wrong with a launch is told behind what the launch itself logs. -/
lemma records_launch (host : Host) (request : Request) (serial : String) :
    (launch host request serial).records =
      ((request.castOptions serial).launch host request.castTool).records ++
        match ((request.castOptions serial).launch host request.castTool).value with
        | .ok () => []
        | .error error => [⟨.error, .request, "Error running scrcpy: " ++ error.message⟩] := by
  unfold launch
  rw [records_bind]
  rcases ((request.castOptions serial).launch host request.castTool).value with error | ⟨⟩ <;> rfl

lemma cast_of_ne_nil {found : List Device} (h : found ≠ []) (serial : String) :
    cast host request serial found =
      (announce request.verbose found >>= fun _ => advise found serial (!request.noAudio)) >>=
        fun _ => launch host request serial := by
  have hempty : found.isEmpty = false := by simpa using h
  unfold cast
  rw [hempty, bind_assoc]
  rfl

lemma calls_cast_of_ne_nil {found : List Device} (h : found ≠ []) (serial : String) :
    (cast host request serial found).calls =
      ((request.castOptions serial).launch host request.castTool).calls := by
  rw [cast_of_ne_nil h, calls_bind, calls_bind, calls_announce, calls_advise, calls_launch]
  rfl

/-! ### Going on with the devices -/

lemma withDevices_of_ok {found : List Device}
    (h : (Bridge.findDevices host request.bridge).value = .ok found)
    (next : List Device → Session Outcome) :
    request.withDevices host next =
      Bridge.findDevices host request.bridge >>= fun _ => next found := by
  unfold withDevices
  refine Session.ext ?_ ?_
  · rw [value_bind, value_bind, h]
  · rw [events_bind, events_bind, h]

lemma withDevices_of_error {failure : ToolError}
    (h : (Bridge.findDevices host request.bridge).value = .error failure)
    (next : List Device → Session Outcome) :
    request.withDevices host next =
      Bridge.findDevices host request.bridge >>= fun _ =>
        Session.log .error .request ("Error communicating with adb: " ++ failure.message) >>=
          fun _ => pure .failed := by
  unfold withDevices
  refine Session.ext ?_ ?_
  · rw [value_bind, value_bind, h]
  · rw [events_bind, events_bind, h]

/-! ### The whole -/

lemma run_of_error {error : RequestError} (h : request.check = .error error) :
    request.run host = pure (.error error) := by
  unfold run
  rw [h]

/-- A request that keeps the rules is worked on, and nothing else can be seen of it. -/
lemma run_of_ok (h : request.check = .ok ()) :
    request.run host = ⟨.ok (request.perform host).value, (request.perform host).events⟩ := by
  unfold run
  rw [h]
  refine Session.ext rfl ?_
  rw [events_bind, events_pure, List.append_nil]

section Kept

variable (h : request.check = .ok ())

include h

lemma value_run_of_ok : (request.run host).value = .ok (request.perform host).value := by
  rw [run_of_ok h]

lemma stdout_run_of_ok : (request.run host).stdout = (request.perform host).stdout := by
  rw [run_of_ok h]
  rfl

lemma stderr_run_of_ok : (request.run host).stderr = (request.perform host).stderr := by
  rw [run_of_ok h]
  rfl

lemma calls_run_of_ok : (request.run host).calls = (request.perform host).calls := by
  rw [run_of_ok h]
  rfl

lemma records_run_of_ok : (request.run host).records = (request.perform host).records := by
  rw [run_of_ok h]
  rfl

end Kept

lemma perform_of_list (h : request.listDevices = true) :
    request.perform host = request.withDevices host fun devices =>
      report request.json devices >>= fun _ => pure .listed := if_pos h

lemma perform_of_none (h : request.listDevices = false) (hserial : request.serial = none) :
    request.perform host = pure .missingSerial := by
  unfold perform
  rw [h, hserial]
  rfl

lemma perform_of_some {serial : String} (h : request.listDevices = false)
    (hserial : request.serial = some serial) :
    request.perform host = request.withDevices host (request.cast host serial) := by
  unfold perform
  rw [h, hserial]
  rfl

end Request

end Screencast
