import BuildPeer.Proofs.Hearing

/-!
Messages that leave no trace. A message with an unknown method and one that asks for the sources never
move the session, in no phase, accepted or rejected. So a run with some of them put in, or taken out,
is the same run for every other message: `exchanges_kept` goes along both runs at once, and the
lifecycle they share carries the induction. The runs have different lengths, so the messages of the
longer one are marked, those that the shorter one lacks as `extra`.
-/

namespace BuildPeer

/-- A message whose method is not in the table, or asks for the sources. -/
def Envelope.IsNeutral (message : Envelope) : Prop :=
  (∀ route ∈ routes, route.method ≠ message.method) ∨ message.method = "buildTarget/sources"

theorem dispatch_neutral (identity : Identity) (lifecycle : Lifecycle) {message : Envelope}
    (neutral : message.IsNeutral) : (dispatch identity lifecycle message).2 = lifecycle := by
  rw [dispatch_after]
  rcases judge_cases lifecycle message.method with
    ⟨judged, -⟩ | ⟨route, member, named, ⟨rejection, judged, -⟩ | ⟨judged, -⟩⟩
  · rw [judged]
    rfl
  · rw [judged]
    rfl
  · rw [judged]
    rcases neutral with unknown | sources
    · exact absurd named (unknown route member)
    · have found : route = ⟨"buildTarget/sources", .query, some .sources⟩ := by
        have here := Route.find?_eq_some_iff.mpr ⟨member, named.trans sources⟩
        exact (Option.some.inj here).symm
      rw [found]
      rfl

theorem Envelope.IsNeutral.noExit {message : Envelope} (neutral : message.IsNeutral) :
    message.isExit = false := by
  rw [Bool.eq_false_iff, Ne, Envelope.isExit_iff]
  intro isExit
  rcases neutral with unknown | sources
  · exact unknown ⟨"build/exit", .exit, none⟩ (by decide) isExit.symm
  · rw [isExit] at sources
    exact absurd sources (by decide)

/-- A message of the longer of two runs; the shorter run lacks the extra ones. -/
structure Entry where
  message : Envelope
  extra : Bool

namespace Entry

def kept (entries : List Entry) : List Envelope :=
  (entries.filter (!·.extra)).map message

def met (identity : Identity) (lifecycle : Lifecycle) (entries : List Entry) :
    List (Exchange × Bool) :=
  (exchanges identity lifecycle (entries.map message)).zip (entries.map extra)

def OnlyNeutral (entries : List Entry) : Prop :=
  ∀ entry ∈ entries, entry.extra = true → entry.message.IsNeutral

def heard (entries : List Entry) : List Entry :=
  entries.takeWhile (!·.message.isExit)

variable (identity : Identity) {lifecycle : Lifecycle} {entry : Entry} {entries : List Entry}

theorem kept_cons_extra (extra : entry.extra = true) (rest : List Entry) :
    kept (entry :: rest) = kept rest := by
  simp [kept, extra]

theorem kept_cons_other (other : ¬entry.extra = true) (rest : List Entry) :
    kept (entry :: rest) = entry.message :: kept rest := by
  simp [kept, other]

theorem map_message_append (entries : List Entry) (more : List Envelope) :
    (entries ++ more.map (mk · false)).map message = entries.map message ++ more := by
  simp [Function.comp_def]

theorem kept_append (entries : List Entry) (more : List Envelope) :
    kept (entries ++ more.map (mk · false)) = kept entries ++ more := by
  simp [kept, List.filter_map, Function.comp_def]

theorem met_fst (lifecycle : Lifecycle) (entries : List Entry) :
    (met identity lifecycle entries).map Prod.fst =
      exchanges identity lifecycle (entries.map message) := by
  have same := congrArg List.length (exchanges_message identity lifecycle (entries.map message))
  rw [List.length_map, List.length_map] at same
  apply List.map_fst_zip
  rw [same, List.length_map]

theorem exchanges_kept (neutral : OnlyNeutral entries) :
    exchanges identity lifecycle (kept entries) =
      ((met identity lifecycle entries).filter (!·.2)).map Prod.fst := by
  induction entries generalizing lifecycle with
  | nil => rfl
  | cons entry rest ih =>
      obtain ⟨first, others⟩ := List.forall_mem_cons.mp neutral
      have split : met identity lifecycle (entry :: rest) =
          (exchange identity lifecycle entry.message, entry.extra) ::
            met identity (dispatch identity lifecycle entry.message).2 rest := rfl
      rw [split]
      by_cases extra : entry.extra = true
      · have still := dispatch_neutral identity lifecycle (first extra)
        rw [kept_cons_extra extra, still, List.filter_cons_of_neg (by simp [extra])]
        exact ih others
      · rw [kept_cons_other extra, List.filter_cons_of_pos (by simp [extra]), List.map_cons,
          ← ih others]
        rfl

theorem lifecycleAfter_kept (neutral : OnlyNeutral entries) :
    lifecycleAfter identity lifecycle (kept entries) =
      lifecycleAfter identity lifecycle (entries.map message) := by
  induction entries generalizing lifecycle with
  | nil => rfl
  | cons entry rest ih =>
      obtain ⟨first, others⟩ := List.forall_mem_cons.mp neutral
      by_cases extra : entry.extra = true
      · have still := dispatch_neutral identity lifecycle (first extra)
        rw [kept_cons_extra extra, ih others, List.map_cons, lifecycleAfter_cons, exchange, still]
      · rw [kept_cons_other extra]
        exact ih others

/-- An exit is never extra, so both runs are heard up to the same place. -/
theorem heard_kept (neutral : OnlyNeutral entries) :
    (kept entries).takeWhile (!·.isExit) = kept (heard entries) ∧
      (kept entries).any Envelope.isExit = (entries.map message).any Envelope.isExit := by
  induction entries with
  | nil => exact ⟨rfl, rfl⟩
  | cons entry rest ih =>
      obtain ⟨first, others⟩ := List.forall_mem_cons.mp neutral
      obtain ⟨front, exits⟩ := ih others
      rw [heard] at front
      rw [heard, List.map_cons, List.any_cons]
      by_cases extra : entry.extra = true
      · have noExit := (first extra).noExit
        rw [List.takeWhile_cons_of_pos (by simp [noExit]), kept_cons_extra extra,
          kept_cons_extra extra, noExit, Bool.false_or]
        exact ⟨front, exits⟩
      · rw [kept_cons_other extra, List.any_cons, exits]
        refine ⟨?_, rfl⟩
        by_cases isExit : entry.message.isExit = true
        · simp [isExit, kept]
        · rw [List.takeWhile_cons_of_pos (by simp [isExit]),
            List.takeWhile_cons_of_pos (by simp [isExit]), kept_cons_other extra, front]

end Entry

namespace Session

open Entry (kept met heard OnlyNeutral)

/-- Neutral messages do not show. In a run of the dispatcher with some of them put in, every other
message meets what it meets without them, in the same phase and with the same phase behind it, and the
last lifecycle is the same. A session whose reader gives the longer run writes the same replies as one
whose reader gives the shorter run, with the replies to the extra messages between them, and ends the
same way. Frames put into an input, in front of anything that may still come, make such readers. -/
theorem neutral_messages_do_not_show :
    (∀ (identity : Identity) (strict : Bool) (entries : List Entry), OnlyNeutral entries →
      exchanges identity (.start strict) (kept entries) =
          ((met identity (.start strict) entries).filter (!·.2)).map Prod.fst ∧
        lifecycleAfter identity (.start strict) (kept entries) =
          lifecycleAfter identity (.start strict) (entries.map Entry.message)) ∧
    (∀ (server : Server) (entries : List Entry), OnlyNeutral entries →
      ∀ (last : Except Halt (Option Envelope)) (source keptSource : Source),
      (Frame.Reader.start server.limits source).Gives (entries.map Entry.message) last →
      (Frame.Reader.start server.limits keptSource).Gives (kept entries) last →
      ∀ (sink : Sink),
        let met := met server.identity (.start server.strict) (heard entries)
        let replies := (met.map Prod.fst).flatMap Exchange.frame
        let keptReplies := ((met.filter (!·.2)).map Prod.fst).flatMap Exchange.frame
        let run := serve server source sink
        let keptRun := serve server keptSource sink
        run.output <+: sink.taken ++ replies ∧ keptRun.output <+: sink.taken ++ keptReplies ∧
          (sink.TakesAll → run.output = sink.taken ++ replies ∧
            keptRun.output = sink.taken ++ keptReplies ∧ run.ending = keptRun.ending)) ∧
    ∀ (limits : Limits) (entries : List Entry) (frames keptFrames : List Bytes)
      (tail : List Signal) (source keptSource : Source),
      List.Forall₂ (Frame.Carries limits.maxFrameSize) frames (entries.map Entry.message) →
      List.Forall₂ (Frame.Carries limits.maxFrameSize) keptFrames (kept entries) →
      source.signals = Signal.ofBytes frames.flatten ++ tail →
      keptSource.signals = Signal.ofBytes keptFrames.flatten ++ tail →
      limits.Awaits source → limits.Awaits keptSource →
      ∃ (more : List Envelope) (last : Except Halt (Option Envelope)),
        let all := entries ++ more.map (Entry.mk · false)
        (Frame.Reader.start limits source).Gives (all.map Entry.message) last ∧
          (Frame.Reader.start limits keptSource).Gives (kept all) last := by
  refine ⟨?_, ?_, ?_⟩
  · intro identity strict entries neutral
    exact ⟨Entry.exchanges_kept identity neutral, Entry.lifecycleAfter_kept identity neutral⟩
  · intro server entries neutral last source keptSource gives keptGives sink met replies keptReplies
      run keptRun
    have heardNeutral : OnlyNeutral (heard entries) := by
      intro entry member
      exact neutral entry (List.takeWhile_subset _ member)
    obtain ⟨front, exits⟩ := Entry.heard_kept neutral
    have heard_ : (entries.map Entry.message).takeWhile (!·.isExit) =
        (heard entries).map Entry.message := List.takeWhile_map ..
    have long := serve_gives gives sink
    have short := serve_gives keptGives sink
    dsimp only at long short
    rw [heard_, ← Entry.met_fst] at long
    rw [front, exits, Entry.exchanges_kept server.identity heardNeutral,
      Entry.lifecycleAfter_kept server.identity heardNeutral] at short
    refine ⟨long.1, short.1, ?_⟩
    intro takesAll
    obtain ⟨output, ending⟩ := long.2 takesAll
    obtain ⟨keptOutput, keptEnding⟩ := short.2 takesAll
    exact ⟨output, keptOutput, ending.trans keptEnding.symm⟩
  · intro limits entries frames keptFrames tail source keptSource carries keptCarries script keptScript
      awaits keptAwaits
    obtain ⟨more, last, gives, keptGives⟩ := Frame.Reader.gives_behind_frames carries keptCarries
      script keptScript awaits keptAwaits
    refine ⟨more, last, ?_, ?_⟩
    · rw [Entry.map_message_append]
      exact gives
    · rw [Entry.kept_append]
      exact keptGives

/-- A request for the sources and an unknown note between the opening and the exit of a strict
session. -/
theorem neutral_messages_do_not_show_between :
    ∃ opening sources note exit : Accepted,
      opening.text = "[\"\",7,\"build/initialize\"]".toList ∧
      sources.text = "[\"\",8,\"buildTarget/sources\"]".toList ∧
      note.text = "\x7b\"jsonrpc\":\"\",\"method\":\"build/compile\"\x7d".toList ∧
      exit.text = "[\"\",null,\"build/exit\"]".toList ∧
      let run := serve { strict := true }
        [.bytes opening.frame, .bytes sources.frame, .bytes note.frame, .bytes exit.frame] {}
      let keptRun := serve { strict := true } [.bytes opening.frame, .bytes exit.frame] {}
      let opened := Frame.encode (.result (.integer 7) (Handler.identity.result {}))
      let listed := Frame.encode (.result (.integer 8) (Handler.sources.result {}))
      run.output = opened ++ listed ∧ keptRun.output = opened ∧ run.ending = keptRun.ending := by
  obtain ⟨opening, openingText, openingIs, openingFits⟩ := Accepted.exists_of_decode
    "[\"\",7,\"build/initialize\"]".toList (.request (.integer 7) "build/initialize" none)
    (by decide +kernel) (by decide)
  obtain ⟨sources, sourcesText, sourcesIs, sourcesFits⟩ := Accepted.exists_of_decode
    "[\"\",8,\"buildTarget/sources\"]".toList (.request (.integer 8) "buildTarget/sources" none)
    (by decide +kernel) (by decide)
  obtain ⟨note, noteText, noteIs, noteFits⟩ := Accepted.exists_of_decode
    "\x7b\"jsonrpc\":\"\",\"method\":\"build/compile\"\x7d".toList
    (.notification "build/compile" none) (by decide +kernel) (by decide)
  obtain ⟨exit, exitText, exitIs, exitFits⟩ := Accepted.exists_of_decode
    "[\"\",null,\"build/exit\"]".toList (.request .null "build/exit" none)
    (by decide +kernel) (by decide)
  refine ⟨opening, sources, note, exit, openingText, sourcesText, noteText, exitText, ?_⟩
  intro run keptRun opened listed
  let entries : List Entry :=
    [⟨opening.message, false⟩, ⟨sources.message, true⟩, ⟨note.message, true⟩, ⟨exit.message, false⟩]
  have neutral : OnlyNeutral entries := by
    intro entry member extra
    simp only [entries, List.mem_cons, List.not_mem_nil, or_false] at member
    rcases member with rfl | rfl | rfl | rfl
    · cases extra
    · rw [sourcesIs]
      exact .inr rfl
    · rw [noteIs]
      exact .inl (by decide)
    · cases extra
  have openingCarries := Accepted.carries openingFits
  have exitCarries := Accepted.carries exitFits
  have awaits (source : Source) : Limits.Awaits {} source :=
    ⟨Limits.outlasts_of_untimed rfl source, .inl rfl⟩
  obtain ⟨-, sessions, inputs⟩ := neutral_messages_do_not_show
  obtain ⟨more, last, gives, keptGives⟩ := inputs {} entries _ _ []
    [.bytes opening.frame, .bytes sources.frame, .bytes note.frame, .bytes exit.frame]
    [.bytes opening.frame, .bytes exit.frame]
    (.cons openingCarries (.cons (Accepted.carries sourcesFits)
      (.cons (Accepted.carries noteFits) (.cons exitCarries .nil))))
    (.cons openingCarries (.cons exitCarries .nil))
    (by simp [Source.signals, Signal.ofBytes]) (by simp [Source.signals, Signal.ofBytes])
    (awaits _) (awaits _)
  have allNeutral : OnlyNeutral (entries ++ more.map (Entry.mk · false)) := by
    intro entry member extra
    rcases List.mem_append.mp member with here | behind
    · exact neutral entry here extra
    · obtain ⟨message, -, rfl⟩ := List.mem_map.mp behind
      cases extra
  obtain ⟨-, -, whole⟩ :=
    sessions { strict := true } _ allNeutral last _ _ gives keptGives {}
  have front : heard (entries ++ more.map (Entry.mk · false)) = entries.take 3 := by
    simp [heard, entries, openingIs, sourcesIs, noteIs, exitIs, Envelope.isExit, Envelope.method]
  have exchanged : met {} (.start true) (entries.take 3) =
      [(⟨opening.message, .start true, .reply (.result (.integer 7) (Handler.identity.result {})),
          ⟨true, .initialized, false⟩⟩, false),
        (⟨sources.message, ⟨true, .initialized, false⟩,
          .reply (.result (.integer 8) (Handler.sources.result {})),
          ⟨true, .initialized, false⟩⟩, true),
        (⟨note.message, ⟨true, .initialized, false⟩, .noReply, ⟨true, .initialized, false⟩⟩,
          true)] := by
    simp only [entries, openingIs, sourcesIs, noteIs]
    rfl
  obtain ⟨output, keptOutput, ending⟩ := whole ⟨rfl, by decide, rfl⟩
  have untouched : Sink.taken {} = [] := rfl
  rw [front, exchanged, untouched, List.nil_append] at output keptOutput
  refine ⟨output.trans ?_, keptOutput.trans ?_, ending⟩
  · simp [Exchange.frame, Exchange.reply?, Outcome.reply?, opened, listed]
  · simp [Exchange.frame, Exchange.reply?, Outcome.reply?, opened]

end Session
end BuildPeer
