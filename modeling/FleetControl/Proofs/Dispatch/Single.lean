import FleetControl.Proofs.Dispatch.Served

namespace FleetControl.Dispatch

variable {settings : Settings} {p : Retry.Policy} {s t : System} {sent : List Message}
  {id : Identifier}

/-- What a step does to a single command: to its entry, and in requests for it. -/
inductive System.Touches (p : Retry.Policy) (s t : System) (sent : List Message)
    (id : Identifier) : Prop
  | spared : t.entryOf? id = s.entryOf? id → attempts id sent = 0 → Touches p s t sent id
  | created {now : Instant} {order : Order} :
    s.entryOf? id = none → t.entryOf? id = some (.new
      (.new id now order.device order.action order.parameters order.priority)) →
      attempts id sent = 0 → Touches p s t sent id
  | withdrawn {e e' : Entry} {now : Instant} :
    s.entryOf? id = some e → e.apply now .cancel = .ok e' → t.entryOf? id = some e'.interrupt →
      attempts id sent = 0 → Touches p s t sent id
  | advanced {l : Lane} {e : Entry} {step : Step} :
    s.lane? l.device = some l → l.hand.command? = some id → s.entryOf? id = some e →
      l.hand.Moves p e step → t.entryOf? id = some step.entry →
        attempts id sent = step.sent.toList.length → Touches p s t sent id

theorem System.Moves.touches (h : s.Moves settings p t sent) (id : Identifier) :
    s.Touches p t sent id := by
  cases h with
  | @submitted id' now submission order record ha hr hn =>
    have hentry := System.entryOf?_accept hn id
    split at hentry
    · rename_i hi
      subst hi hr
      exact .created hn hentry rfl
    · exact .spared hentry rfl
  | unchanged => exact .spared rfl rfl
  | @cancelled id' e e' now he ha =>
    have hid : e'.interrupt.record.id = id' :=
      (Entry.apply_ok ha).2.1.trans (System.id_of_entryOf? he)
    have hentry := System.entryOf?_setEntry_of he hid id
    split at hentry
    · rename_i hi
      subst hi
      exact .withdrawn he ha hentry rfl
    · exact .spared hentry rfl
  | taken => exact .spared rfl rfl
  | @happened l id' e step hl hc he hm =>
    have hentry := System.entryOf?_advance he hm id
    have hsent := hm.attempts_sent hc (System.id_of_entryOf? he) id
    split at hentry
    · rename_i hi
      subst hi
      refine .advanced hl hc he hm hentry ?_
      rw [hsent]
      cases step.sent <;> simp
    · rename_i hi
      exact .spared hentry (hsent.trans (if_neg fun hb ↦ hi hb.2))

end FleetControl.Dispatch
