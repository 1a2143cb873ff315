import BuildPeer.Proofs.Hearing
import BuildPeer.Proofs.Json.Path

/-!
What a session depends on. Two peers with different identities are given two lists of messages that
agree, one by one, on the kind, the id and the method, and on nothing else. They go through the same
phases and answer the same, but for the requests to initialize that they accept: the answers to those
say who the peer is, and nothing but that. The relation between the two runs is that their lifecycles
are equal; `exchange_mirrors` keeps it for one message.
-/

namespace BuildPeer

/-- Two messages of one kind, with one id and one method. -/
structure Envelope.SameCall (first second : Envelope) : Prop where
  id : first.id? = second.id?
  method : first.method = second.method

def Exchange.AsksIdentity (exchange : Exchange) : Prop :=
  exchange.message.method = "build/initialize" ∧ exchange.message.id?.isSome = true ∧
    (exchange.before.check .initializing).isOk = true

/-- Two exchanges in the same phase over the same call. They come to the same, unless they ask the two
peers who they are. -/
structure Exchange.Mirrors (here there : Identity) (first second : Exchange) : Prop where
  call : first.message.SameCall second.message
  before : first.before = second.before
  after : first.after = second.after
  same : ¬first.AsksIdentity → first.outcome = second.outcome
  told : first.AsksIdentity → ∃ id, first.message.id? = some id ∧
    first.outcome = .reply (.result id (Handler.identity.result here)) ∧
    second.outcome = .reply (.result id (Handler.identity.result there))

theorem identity_result (identity : Identity) :
    Handler.identity.result identity = .object [
      ("bspVersion", .string "2.0"),
      ("capabilities", .object [("languageIds", .array (identity.languageIds.map .string))]),
      ("data", .object [("indexStorePath", .string identity.indexStorePath)]),
      ("displayName", .string identity.displayName),
      ("rootUri", .string identity.rootUri),
      ("version", .string identity.version)] := by
  have languages : Json.sortedElements (identity.languageIds.map .string) =
      identity.languageIds.map .string := by
    rw [Json.sortedElements_eq_map, List.map_map]
    rfl
  simp only [Handler.result, Payload.ofInitialize, initializeResult, Json.sorted,
    Json.sortedMembers, languages]
  rfl

-- One message.

section

variable {here there : Identity} {lifecycle : Lifecycle} {first second : Envelope}

theorem Outcome.toRequest_call (call : first.SameCall second) (reply : Json → Response) :
    Outcome.toRequest first reply = Outcome.toRequest second reply := by
  rw [Outcome.toRequest, Outcome.toRequest, call.id]

theorem dispatch_initialize (identity : Identity) (isOpening : first.method = "build/initialize")
    (allowed : (lifecycle.check .initializing).isOk = true) {id : Json}
    (isId : first.id? = some id) :
    (dispatch identity lifecycle first).1 =
      .reply (.result id (Handler.identity.result identity)) := by
  have found : Route.find? "build/initialize" =
      some ⟨"build/initialize", .initializing, some .identity⟩ :=
    Route.find?_eq_some_iff.mpr (by decide)
  unfold dispatch judge
  rw [isOpening, found]
  dsimp only
  cases checked : lifecycle.check .initializing with
  | error rejection =>
      rw [checked] at allowed
      cases allowed
  | ok =>
      change Outcome.toRequest first _ = _
      rw [Outcome.toRequest, isId]

theorem Route.identity_iff {route : Route} (member : route ∈ routes) :
    route.handler = some .identity ↔ route = ⟨"build/initialize", .initializing, some .identity⟩ := by
  simp only [routes, List.mem_cons, List.not_mem_nil, or_false] at member
  rcases member with rfl | rfl | rfl | rfl | rfl <;> simp

theorem dispatch_same (call : first.SameCall second)
    (other : ¬(exchange here lifecycle first).AsksIdentity) :
    (dispatch here lifecycle first).1 = (dispatch there lifecycle second).1 := by
  unfold dispatch
  rw [← call.method]
  rcases judge_cases lifecycle first.method with
    ⟨judged, -⟩ | ⟨route, member, named, ⟨rejection, judged, -⟩ | ⟨judged, checked⟩⟩
  · rw [judged]
    exact Outcome.toRequest_call call _
  · rw [judged]
    exact Outcome.toRequest_call call _
  · rw [judged]
    dsimp only
    by_cases over_ : (lifecycle.apply route.event).phase = .exited
    · rw [if_pos over_, if_pos over_]
    · rw [if_neg over_, if_neg over_]
      cases handled : route.handler with
      | none => rfl
      | some handler =>
          cases handler with
          | acknowledgement => exact Outcome.toRequest_call call _
          | sources => exact Outcome.toRequest_call call _
          | identity =>
              -- This is an accepted message to initialize, so it can only be a notification.
              have isRoute := (Route.identity_iff member).mp handled
              have notified : first.id? = none := by
                by_contra asked
                rw [isRoute] at checked named
                have allowed : (lifecycle.check .initializing).isOk = true := by rw [checked]; rfl
                exact other ⟨named.symm, Option.isSome_iff_ne_none.mpr asked, allowed⟩
              change Outcome.toRequest first _ = Outcome.toRequest second _
              rw [Outcome.toRequest, Outcome.toRequest, ← call.id, notified]

/-- The same call in the same phase moves both peers alike, and comes to the same unless it asks who
they are. -/
theorem exchange_mirrors (lifecycle : Lifecycle) (call : first.SameCall second) :
    (exchange here lifecycle first).Mirrors here there (exchange there lifecycle second) where
  call := call
  before := rfl
  after := by
    change (dispatch here lifecycle first).2 = (dispatch there lifecycle second).2
    rw [dispatch_after, dispatch_after, call.method]
  same := dispatch_same call
  told := by
    rintro ⟨isOpening, asked, allowed⟩
    obtain ⟨id, isId⟩ := Option.isSome_iff_exists.mp asked
    exact ⟨id, isId, dispatch_initialize here isOpening allowed isId,
      dispatch_initialize there (call.method.symm.trans isOpening) allowed
        (call.id.symm.trans isId)⟩

-- A run.

variable {firsts seconds : List Envelope}

theorem exchanges_mirror (lifecycle : Lifecycle)
    (calls : List.Forall₂ Envelope.SameCall firsts seconds) :
    List.Forall₂ (Exchange.Mirrors here there) (exchanges here lifecycle firsts)
        (exchanges there lifecycle seconds) ∧
      lifecycleAfter here lifecycle firsts = lifecycleAfter there lifecycle seconds := by
  induction calls generalizing lifecycle with
  | nil => exact ⟨.nil, rfl⟩
  | @cons first second firsts seconds call more ih =>
      have mirrors : (exchange here lifecycle first).Mirrors here there
          (exchange there lifecycle second) := exchange_mirrors lifecycle call
      obtain ⟨others, last⟩ := ih (exchange here lifecycle first).after
      constructor
      · rw [exchanges_cons, exchanges_cons, ← mirrors.after]
        exact .cons mirrors others
      · rw [lifecycleAfter_cons, lifecycleAfter_cons, ← mirrors.after]
        exact last

theorem heard_mirror (calls : List.Forall₂ Envelope.SameCall firsts seconds) :
    List.Forall₂ Envelope.SameCall (firsts.takeWhile (!·.isExit)) (seconds.takeWhile (!·.isExit)) ∧
      firsts.any Envelope.isExit = seconds.any Envelope.isExit := by
  induction calls with
  | nil => exact ⟨.nil, rfl⟩
  | @cons first second firsts seconds call more ih =>
      obtain ⟨front, exits⟩ := ih
      have same : first.isExit = second.isExit := by rw [Envelope.isExit, Envelope.isExit, call.method]
      rw [List.any_cons, List.any_cons, same, exits]
      refine ⟨?_, rfl⟩
      by_cases isExit : second.isExit = true
      · simp [same, isExit]
      · rw [List.takeWhile_cons_of_pos (by simp [same, isExit]),
          List.takeWhile_cons_of_pos (by simp [isExit])]
        exact .cons call front

/-- Two replies in the same place: the same, or the answers of the two peers to a request to
initialize. -/
inductive Response.Mirrors (here there : Identity) : Response → Response → Prop where
  | same (response : Response) : Mirrors here there response response
  | identity (id : Json) : Mirrors here there (.result id (Handler.identity.result here))
      (.result id (Handler.identity.result there))

theorem replies_mirror {met others : List Exchange}
    (mirrors : List.Forall₂ (Exchange.Mirrors here there) met others) :
    List.Forall₂ (Response.Mirrors here there) (met.filterMap Exchange.reply?)
      (others.filterMap Exchange.reply?) := by
  induction mirrors with
  | nil => exact .nil
  | @cons first second met others mirror more ih =>
      by_cases asks : first.AsksIdentity
      · obtain ⟨id, -, told, toldThere⟩ := mirror.told asks
        have reply : first.reply? = some (.result id (Handler.identity.result here)) := by
          rw [Exchange.reply?, told, Outcome.reply?]
        have replyThere : second.reply? = some (.result id (Handler.identity.result there)) := by
          rw [Exchange.reply?, toldThere, Outcome.reply?]
        rw [List.filterMap_cons_some reply, List.filterMap_cons_some replyThere]
        exact .cons (.identity id) ih
      · have same : first.reply? = second.reply? := congrArg Outcome.reply? (mirror.same asks)
        cases reply : second.reply? with
        | none =>
            rw [List.filterMap_cons_none (same.trans reply), List.filterMap_cons_none reply]
            exact ih
        | some response =>
            rw [List.filterMap_cons_some (same.trans reply), List.filterMap_cons_some reply]
            exact .cons (.same response) ih

end

namespace Session

/-- A session depends on the kinds, the ids and the methods of its messages, and says who the peer is
in the answers to accepted requests to initialize only. There it says the identity and nothing else. -/
theorem session_depends_on_calls :
    (∀ (identity : Identity), Handler.identity.result identity = .object [
      ("bspVersion", .string "2.0"),
      ("capabilities", .object [("languageIds", .array (identity.languageIds.map .string))]),
      ("data", .object [("indexStorePath", .string identity.indexStorePath)]),
      ("displayName", .string identity.displayName),
      ("rootUri", .string identity.rootUri),
      ("version", .string identity.version)]) ∧
    ∀ (strict : Bool) (here there : Identity) (limits : Limits) (firsts seconds : List Envelope),
      List.Forall₂ Envelope.SameCall firsts seconds →
      ∀ (firstFrames secondFrames : List Bytes),
      List.Forall₂ (Frame.Carries limits.maxFrameSize) firstFrames firsts →
      List.Forall₂ (Frame.Carries limits.maxFrameSize) secondFrames seconds →
      ∀ (first second : Source),
      first.signals = Signal.ofBytes firstFrames.flatten →
      second.signals = Signal.ofBytes secondFrames.flatten →
      limits.Outlasts first → limits.Outlasts second →
      ∀ (sink : Sink), sink.TakesAll →
        let firstHeard := firsts.takeWhile (!·.isExit)
        let secondHeard := seconds.takeWhile (!·.isExit)
        let firstReplies := replies here (.start strict) firstHeard
        let secondReplies := replies there (.start strict) secondHeard
        let firstRun := serve ⟨strict, here, limits⟩ first sink
        let secondRun := serve ⟨strict, there, limits⟩ second sink
        firstRun.ending = secondRun.ending ∧
          firstRun.output = sink.taken ++ firstReplies.flatMap Frame.encode ∧
          secondRun.output = sink.taken ++ secondReplies.flatMap Frame.encode ∧
          List.Forall₂ (Response.Mirrors here there) firstReplies secondReplies ∧
          List.Forall₂ (Exchange.Mirrors here there) (exchanges here (.start strict) firstHeard)
            (exchanges there (.start strict) secondHeard) := by
  refine ⟨identity_result, ?_⟩
  intro strict here there limits firsts seconds calls firstFrames secondFrames firstCarries
    secondCarries first second firstScript secondScript firstOutlasts secondOutlasts sink takesAll
    firstHeard secondHeard firstReplies secondReplies firstRun secondRun
  obtain ⟨heard, exits⟩ := heard_mirror calls
  have mirrors : List.Forall₂ (Exchange.Mirrors here there) _ _ ∧ _ :=
    exchanges_mirror (.start strict) heard
  obtain ⟨met, last⟩ := mirrors
  have firstGives : (Frame.Reader.start (Server.limits ⟨strict, here, limits⟩) first).Gives _ _ :=
    Frame.Reader.gives_frames firstCarries firstScript firstOutlasts
  have secondGives : (Frame.Reader.start (Server.limits ⟨strict, there, limits⟩) second).Gives _ _ :=
    Frame.Reader.gives_frames secondCarries secondScript secondOutlasts
  have firstSession : firstRun.output = _ ∧ firstRun.ending = _ :=
    (serve_gives firstGives sink).2 takesAll
  have secondSession : secondRun.output = _ ∧ secondRun.ending = _ :=
    (serve_gives secondGives sink).2 takesAll
  obtain ⟨firstOutput, firstEnding⟩ := firstSession
  obtain ⟨secondOutput, secondEnding⟩ := secondSession
  refine ⟨?_, ?_, ?_, replies_mirror met, met⟩
  · rw [firstEnding, secondEnding, exits, last]
  · rw [firstOutput, replies_frames]
  · rw [secondOutput, replies_frames]

/-- Two peers with different names. The second hears the same calls with other parameters, members in
another order, and one that means nothing. -/
theorem session_depends_on_calls_by_name :
    ∃ opening listing otherOpening otherListing : Accepted,
      opening.text = "[\"2.0\",7,\"build/initialize\"]".toList ∧
      listing.text = "[\"2.0\",8,\"buildTarget/sources\"]".toList ∧
      otherOpening.text =
        "\x7b\"method\":\"build/initialize\",\"params\":[true],\"id\":7,\"jsonrpc\":\"\"\x7d".toList ∧
      otherListing.text =
        "\x7b\"id\":8,\"note\":null,\"jsonrpc\":\"1\",\"method\":\"buildTarget/sources\"\x7d".toList ∧
      let here : Identity := { displayName := "here" }
      let there : Identity := { displayName := "there" }
      let run := serve ⟨true, here, {}⟩ [.bytes opening.frame, .bytes listing.frame] {}
      let otherRun :=
        serve ⟨true, there, {}⟩ [.bytes otherOpening.frame, .pause 5, .bytes otherListing.frame] {}
      let listed := Frame.encode (.result (.integer 8) (Handler.sources.result {}))
      let named (length name : String) := "Content-Length: " ++ length ++ "\r\n\r\n" ++
        "\x7b\"jsonrpc\":\"2.0\",\"id\":7,\"result\":\x7b\"bspVersion\":\"2.0\"," ++
        "\"capabilities\":\x7b\"languageIds\":[\"a\",\"b\"]\x7d," ++
        "\"data\":\x7b\"indexStorePath\":\"some/index/store/path\"\x7d," ++
        "\"displayName\":\"" ++ name ++ "\",\"rootUri\":\"blah\",\"version\":\"0.1\"\x7d\x7d"
      run.ending = otherRun.ending ∧
        run.output = Frame.encode (.result (.integer 7) (Handler.identity.result here)) ++ listed ∧
        otherRun.output =
          Frame.encode (.result (.integer 7) (Handler.identity.result there)) ++ listed ∧
        Text.Utf8.encode (named "199" "here").toList <+: run.output ∧
        Text.Utf8.encode (named "200" "there").toList <+: otherRun.output := by
  obtain ⟨opening, openingText, openingIs, openingFits⟩ := Accepted.exists_of_decode
    "[\"2.0\",7,\"build/initialize\"]".toList (.request (.integer 7) "build/initialize" none)
    (by decide +kernel) (by decide)
  obtain ⟨listing, listingText, listingIs, listingFits⟩ := Accepted.exists_of_decode
    "[\"2.0\",8,\"buildTarget/sources\"]".toList (.request (.integer 8) "buildTarget/sources" none)
    (by decide +kernel) (by decide)
  obtain ⟨otherOpening, otherOpeningText, otherOpeningIs, otherOpeningFits⟩ :=
    Accepted.exists_of_decode
      "\x7b\"method\":\"build/initialize\",\"params\":[true],\"id\":7,\"jsonrpc\":\"\"\x7d".toList
      (.request (.integer 7) "build/initialize" (some (.array [.bool true])))
      (by decide +kernel) (by decide)
  obtain ⟨otherListing, otherListingText, otherListingIs, otherListingFits⟩ :=
    Accepted.exists_of_decode
      "\x7b\"id\":8,\"note\":null,\"jsonrpc\":\"1\",\"method\":\"buildTarget/sources\"\x7d".toList
      (.request (.integer 8) "buildTarget/sources" none)
      (by decide +kernel) (by decide)
  refine ⟨opening, listing, otherOpening, otherListing, openingText, listingText, otherOpeningText,
    otherListingText, ?_⟩
  intro here there run otherRun listed named
  have calls : List.Forall₂ Envelope.SameCall [opening.message, listing.message]
      [otherOpening.message, otherListing.message] := by
    rw [openingIs, listingIs, otherOpeningIs, otherListingIs]
    exact .cons ⟨rfl, rfl⟩ (.cons ⟨rfl, rfl⟩ .nil)
  obtain ⟨-, sessions⟩ := session_depends_on_calls
  obtain ⟨ending, output, otherOutput, -, -⟩ := sessions true here there {} _ _ calls
    [opening.frame, listing.frame] [otherOpening.frame, otherListing.frame]
    (.cons (Accepted.carries openingFits) (.cons (Accepted.carries listingFits) .nil))
    (.cons (Accepted.carries otherOpeningFits) (.cons (Accepted.carries otherListingFits) .nil))
    [.bytes opening.frame, .bytes listing.frame]
    [.bytes otherOpening.frame, .pause 5, .bytes otherListing.frame]
    (by simp [Source.signals, Signal.ofBytes]) (by simp [Source.signals, Signal.ofBytes])
    (Limits.outlasts_of_untimed rfl _) (Limits.outlasts_of_untimed rfl _) {} ⟨rfl, by decide, rfl⟩
  have heard (params : Option Json) :
      [Envelope.request (.integer 7) "build/initialize" params,
        .request (.integer 8) "buildTarget/sources" none].takeWhile (!·.isExit) =
      [.request (.integer 7) "build/initialize" params,
        .request (.integer 8) "buildTarget/sources" none] := by
    simp [Envelope.isExit, Envelope.method]
  have replied (identity : Identity) (params : Option Json) :
      replies identity (.start true) [.request (.integer 7) "build/initialize" params,
        .request (.integer 8) "buildTarget/sources" none] =
      [.result (.integer 7) (Handler.identity.result identity),
        .result (.integer 8) (Handler.sources.result {})] := rfl
  have written (identity : Identity) (params : Option Json) :
      (replies identity (.start true) ([Envelope.request (.integer 7) "build/initialize" params,
        .request (.integer 8) "buildTarget/sources" none].takeWhile (!·.isExit))).flatMap
          Frame.encode =
      Frame.encode (.result (.integer 7) (Handler.identity.result identity)) ++ listed := by
    rw [heard, replied, List.flatMap_cons, List.flatMap_singleton]
  have untouched : Sink.taken {} = [] := rfl
  rw [openingIs, listingIs, written, untouched, List.nil_append] at output
  rw [otherOpeningIs, otherListingIs, written, untouched, List.nil_append] at otherOutput
  have hereBytes : Frame.encode (.result (.integer 7) (Handler.identity.result here)) =
      Text.Utf8.encode (named "199" "here").toList := by
    simp only [named, String.toList_append]
    decide +kernel
  have thereBytes : Frame.encode (.result (.integer 7) (Handler.identity.result there)) =
      Text.Utf8.encode (named "200" "there").toList := by
    simp only [named, String.toList_append]
    decide +kernel
  refine ⟨ending, output, otherOutput, ?_, ?_⟩
  · rw [← hereBytes]
    exact ⟨listed, output.symm⟩
  · rw [← thereBytes]
    exact ⟨listed, otherOutput.symm⟩

end Session
end BuildPeer
