import Screencast.Proofs.Request.Advisory

/-!
A list for its own sake. A request for a list is about the bridge and the form of the list: what it
says of a cast must keep the rules, but has no other influence, and neither has the casting tool of
the host.
-/

namespace Screencast

open Session Text

/-! ### One bridge on two hosts -/

lemma Host.capture_congr {host other : Host} {path : ToolPath} {args : List String}
    (h : host.start path args = other.start path args) :
    host.capture path args = other.capture path args := by
  unfold capture
  rw [h]

namespace Bridge

variable {host other : Host}

section SameAnswers

variable {bridge : Bridge}
  (h : ∀ args, host.start bridge.path args = other.start bridge.path args)

include h

lemma queryLevel_congr (serial : String) :
    queryLevel host bridge serial = queryLevel other bridge serial := by
  unfold queryLevel
  rw [Host.capture_congr (h (queryArgs serial))]

lemma identify_congr (entry : Listing.Entry) :
    identify host bridge entry = identify other bridge entry := by
  unfold identify
  rw [queryLevel_congr h]

/-- The devices depend on nothing but the answers of the bridge, be they levels or failures. -/
lemma devices_congr : devices host bridge = devices other bridge := by
  have hidentify : identify host bridge = identify other bridge := funext (identify_congr h)
  unfold devices
  rw [Host.capture_congr (h listArgs), hidentify]

end SameAnswers

lemma findDevices_congr {tool : ToolPath} (h : ∀ args, Host.SameTool host other tool args) :
    findDevices host tool = findDevices other tool := by
  have hfind : host.find tool = other.find tool := (h []).find
  rcases hhost : host.find tool with error | path
  · rw [findDevices_of_error hhost, findDevices_of_error (hfind.symm.trans hhost)]
  · rw [findDevices_of_ok hhost, findDevices_of_ok (hfind.symm.trans hhost),
      devices_congr fun args => (h args).start path hhost]

end Bridge

namespace Request

variable {host other : Host} {request request' : Request}

/-- What is done with the devices depends on the request only through what is done next. -/
lemma withDevices_congr
    (h : Bridge.findDevices host request.bridge = Bridge.findDevices other request'.bridge)
    (next : List Device → Session Outcome) :
    request.withDevices host next = request'.withDevices other next := by
  unfold withDevices
  rw [h]

/-! ### Two requests for one list -/

/-- **A list is independent of the cast.** Two requests for a list that keep the rules and agree on
the bridge and on the form of the list have the same run on two hosts with the same bridge: the same
result, and the same output, complaints, log records and calls in the same order. They can differ in
the device, the codec, the limits, the audio, the keyboard, the casting tool and its extra arguments
and in what is told before a cast, and the hosts in all but the bridge. -/
theorem list_is_independent_of_cast (hcheck : request.check = .ok ())
    (hcheck' : request'.check = .ok ()) (hlist : request.listDevices = true)
    (hlist' : request'.listDevices = true) (hbridge : request.bridge = request'.bridge)
    (hjson : request.json = request'.json)
    (hsame : ∀ args, Host.SameTool host other request.bridge args) :
    request.run host = request'.run other := by
  have hfind : Bridge.findDevices host request.bridge =
      Bridge.findDevices other request'.bridge := by
    rw [Bridge.findDevices_congr hsame, hbridge]
  have hperform : request.perform host = request'.perform other := by
    rw [perform_of_list hlist, perform_of_list hlist', hjson]
    exact withDevices_congr hfind _
  rw [run_of_ok hcheck, run_of_ok hcheck', hperform]

/-- A request for a list that says much of a cast. -/
def busyListRequest : Request where
  serial := some "b"
  videoCodec := some "h265"
  maxSize := some 1920
  maxFps := some 0
  noAudio := true
  keyboard := .uhid
  listDevices := true
  verbose := true
  castTool := ⟨"no/such/tool"⟩
  extra := ["--help"]

/-- The bridge is the same with and without a casting tool beside it. -/
lemma sameTool_bridgeHost (listing : String) (args : List String) :
    Host.SameTool (castHost listing ⟨utf8 "34\n", [], .code 0⟩) (bridgeHost listing)
      Bridge.defaultPath args where
  find := by rw [find_bridge_castHost, find_bridgeHost]
  start path hfind := by
    rw [find_bridge_castHost] at hfind
    obtain rfl := Except.ok.inj hfind
    rfl

/-- Much that is said of a cast, and a casting tool that is nowhere to be found, leave the list as
it is. -/
theorem list_is_independent_of_cast_busy :
    listRequest.check = .ok () ∧ busyListRequest.check = .ok () ∧
    listRequest.run (castHost "\na device" ⟨utf8 "34\n", [], .code 0⟩) =
      busyListRequest.run (bridgeHost "\na device") := by
  have hcheck : busyListRequest.check = .ok () := by cbv
  exact ⟨asks_listRequest.1, hcheck, list_is_independent_of_cast asks_listRequest.1 hcheck rfl rfl
    rfl rfl fun args => sameTool_bridgeHost _ args⟩

end Request

end Screencast
