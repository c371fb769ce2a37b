import InputSharing.Proofs.Source.History
import Mathlib.Data.List.Nodup
import Mathlib.Data.List.Perm.Basic

/-!
# Accounts of relaying

An account lists the requests to pass on that were handled, the results that
were sent, and the requests that are outstanding, each under its token.  It is
balanced when every request is settled by one result, or outstanding, or was
lost with the channel on which it came.

The account of a turn changes in few ways: a request is refused, or passed on;
an outstanding request is settled, or discarded when its channel is gone; and
the requests of a channel that is gone are detached from it.  Each of these
keeps the balance.
-/

namespace InputSharing

/-! ## Settlements -/

def Grant.IsNothing : Grant → Prop
  | .done => True
  | .allowList combinations => combinations = []
  | .types granted => granted = ∅
  | .handles granted => granted = ∅

/-- A request to pass on and the result that was sent for it. -/
structure Settlement where
  inquiry : Inquiry
  /-- The token under which the request was passed on, if it was. -/
  token : Option RelayToken
  result : RelayResult

namespace Settlement

def verdict (settlement : Settlement) : Verdict :=
  ⟨settlement.inquiry.origin, settlement.inquiry.source, settlement.inquiry.sink,
    settlement.result⟩

/-- The result is a failure of this very request. -/
structure IsFailure (settlement : Settlement) : Prop where
  status_ne_ok : settlement.result.status ≠ Status.ok
  request_eq : settlement.result.request = settlement.inquiry.request
  nothing : settlement.result.granted.IsNothing

/-- The result is what the sink answered under the token of this request. -/
def IsAnswer (issued : List (RelayToken × Request)) (answers : List Answer)
    (settlement : Settlement) : Prop :=
  ∃ (token : RelayToken) (reply : Reply),
    settlement.token = some token ∧
    (token, settlement.inquiry.request) ∈ issued ∧
    ⟨settlement.inquiry.sink, token, reply⟩ ∈ answers ∧
    settlement.result = reply.toResult

theorem isFailure_failure (inquiry : Inquiry) (token : Option RelayToken) {status : Int32}
    (fails : status ≠ Status.ok) :
    IsFailure ⟨inquiry, token, inquiry.request.failure status⟩ := by
  obtain ⟨origin, source, sink, request⟩ := inquiry
  cases request <;> exact ⟨fails, rfl, by simp [Request.failure, RelayResult.granted,
    Grant.IsNothing]⟩

end Settlement

/-! ## Accounts -/

def Correlation.inquiry? (correlation : Correlation) : Option Inquiry :=
  correlation.origin.map fun origin =>
    ⟨origin, correlation.source, correlation.target, correlation.request⟩

/-- A correlation after a channel is gone. -/
def Correlation.detach (session : SessionId) (correlation : Correlation) : Correlation :=
  if correlation.origin = some session then { correlation with origin := none } else correlation

theorem Correlation.request_detach (session : SessionId) (correlation : Correlation) :
    (correlation.detach session).request = correlation.request := by
  unfold Correlation.detach
  split <;> rfl

theorem Correlation.target_detach (session : SessionId) (correlation : Correlation) :
    (correlation.detach session).target = correlation.target := by
  unfold Correlation.detach
  split <;> rfl

theorem Relays.getElem?_abandonOrigin (relays : Relays) (session : SessionId)
    (token : RelayToken) :
    (relays.abandonOrigin session).live[token]? =
      relays.live[token]?.map (Correlation.detach session) :=
  Std.ExtTreeMap.getElem?_map

theorem Correlation.inquiry?_detach (session : SessionId) (correlation : Correlation) :
    (correlation.detach session).inquiry? =
      correlation.inquiry?.filter fun inquiry => !decide (inquiry.origin = session) := by
  obtain ⟨origin, source, target, request⟩ := correlation
  cases origin with
  | none => simp [detach, inquiry?]
  | some origin =>
      by_cases same : origin = session
      · simp [detach, inquiry?, same, Option.filter]
      · simp [detach, inquiry?, same, Option.filter]

def Inquiry.correlation (inquiry : Inquiry) : Correlation :=
  { origin := some inquiry.origin
    source := inquiry.source
    target := inquiry.sink
    request := inquiry.request }

theorem Inquiry.inquiry?_correlation (inquiry : Inquiry) :
    inquiry.correlation.inquiry? = some inquiry :=
  rfl

/-- What relaying has come to. -/
structure Account where
  asked : List Inquiry
  verdicts : List Verdict
  issued : List (RelayToken × Request)
  answers : List Answer
  gone : List SessionId
  outstanding : List (RelayToken × Correlation)

namespace Account

/-- The requests that are outstanding and whose channel is not gone. -/
def expected (account : Account) : List Inquiry :=
  account.outstanding.filterMap fun entry => entry.2.inquiry?

structure BalancedBy (account : Account) (settlements : List Settlement)
    (lost : List Inquiry) : Prop where
  verdicts_eq : account.verdicts = settlements.map Settlement.verdict
  asked_perm :
    account.asked.Perm (settlements.map Settlement.inquiry ++ (account.expected ++ lost))
  gone_of_lost : ∀ inquiry ∈ lost, inquiry.origin ∈ account.gone
  justified :
    ∀ settlement ∈ settlements,
      settlement.IsFailure ∨ settlement.IsAnswer account.issued account.answers
  issued_of_outstanding :
    ∀ entry ∈ account.outstanding, (entry.1, entry.2.request) ∈ account.issued
  issued_of_settled :
    ∀ settlement ∈ settlements, ∀ token, settlement.token = some token →
      token ∈ account.issued.map Prod.fst
  tokens_nodup :
    (settlements.filterMap Settlement.token ++ account.outstanding.map Prod.fst).Nodup

def Balanced (account : Account) : Prop :=
  ∃ (settlements : List Settlement) (lost : List Inquiry), account.BalancedBy settlements lost

namespace Balanced

variable {account : Account}

theorem issued_of_outstanding (balanced : account.Balanced) {token : RelayToken}
    {correlation : Correlation} (listed : (token, correlation) ∈ account.outstanding) :
    (token, correlation.request) ∈ account.issued := by
  obtain ⟨settlements, lost, books⟩ := balanced
  exact books.issued_of_outstanding _ listed

/-! ## What keeps the balance -/

theorem perm (balanced : account.Balanced) {outstanding : List (RelayToken × Correlation)}
    (same : account.outstanding.Perm outstanding) :
    Balanced { account with outstanding } := by
  obtain ⟨settlements, lost, books⟩ := balanced
  refine ⟨settlements, lost, books.verdicts_eq, ?_, books.gone_of_lost, books.justified, ?_,
    books.issued_of_settled, ?_⟩
  · have expected : account.expected.Perm (expected { account with outstanding }) :=
      same.filterMap _
    exact books.asked_perm.trans (((expected.append_right lost)).append_left _)
  · intro entry listed
    exact books.issued_of_outstanding entry (same.mem_iff.2 listed)
  · have tokens := (same.map Prod.fst).append_left (settlements.filterMap Settlement.token)
    exact tokens.nodup_iff.1 books.tokens_nodup

/-- More answers and more channels that are gone do no harm. -/
theorem mono (balanced : account.Balanced) (answers : List Answer) (gone : List SessionId) :
    Balanced
      { account with answers := account.answers ++ answers, gone := account.gone ++ gone } := by
  obtain ⟨settlements, lost, books⟩ := balanced
  refine ⟨settlements, lost, books.verdicts_eq, books.asked_perm, ?_, ?_,
    books.issued_of_outstanding, books.issued_of_settled, books.tokens_nodup⟩
  · intro inquiry listed
    exact List.mem_append_left gone (books.gone_of_lost inquiry listed)
  · intro settlement listed
    rcases books.justified settlement listed with failure | answer
    · exact Or.inl failure
    · obtain ⟨token, reply, used, issued, answered, equal⟩ := answer
      exact Or.inr ⟨token, reply, used, issued, List.mem_append_left answers answered, equal⟩

/-- A request that is refused is settled at once. -/
theorem refuse (balanced : account.Balanced) (inquiry : Inquiry) {status : Int32}
    (fails : status ≠ Status.ok) :
    Balanced
      { account with
        asked := account.asked ++ [inquiry]
        verdicts :=
          account.verdicts ++
            [⟨inquiry.origin, inquiry.source, inquiry.sink, inquiry.request.failure status⟩] } := by
  obtain ⟨settlements, lost, books⟩ := balanced
  let settlement : Settlement := ⟨inquiry, none, inquiry.request.failure status⟩
  refine ⟨settlements ++ [settlement], lost, ?_, ?_, books.gone_of_lost, ?_,
    books.issued_of_outstanding, ?_, ?_⟩
  · simp only [books.verdicts_eq, List.map_append]
    rfl
  · have grown := books.asked_perm.append_right [inquiry]
    rw [List.append_assoc] at grown
    refine grown.trans ?_
    rw [List.map_append, List.append_assoc (settlements.map Settlement.inquiry)]
    exact List.Perm.append_left _ List.perm_append_comm
  · intro tested listed
    rcases List.mem_append.1 listed with earlier | last
    · exact books.justified tested earlier
    · rw [List.mem_singleton.1 last]
      exact Or.inl (Settlement.isFailure_failure inquiry none fails)
  · intro tested listed token used
    rcases List.mem_append.1 listed with earlier | last
    · exact books.issued_of_settled tested earlier token used
    · rw [List.mem_singleton.1 last] at used
      cases used
  · simpa [settlement] using books.tokens_nodup

/-- A request that is passed on under a new token becomes outstanding. -/
theorem pass (balanced : account.Balanced) (inquiry : Inquiry) {token : RelayToken}
    (fresh : token ∉ account.issued.map Prod.fst) :
    Balanced
      { account with
        asked := account.asked ++ [inquiry]
        issued := account.issued ++ [(token, inquiry.request)]
        outstanding := (token, inquiry.correlation) :: account.outstanding } := by
  obtain ⟨settlements, lost, books⟩ := balanced
  refine ⟨settlements, lost, books.verdicts_eq, ?_, books.gone_of_lost, ?_, ?_, ?_, ?_⟩
  · have expected :
        expected
            { account with
              asked := account.asked ++ [inquiry]
              issued := account.issued ++ [(token, inquiry.request)]
              outstanding := (token, inquiry.correlation) :: account.outstanding } =
          inquiry :: account.expected := by
      simp [Account.expected, Inquiry.inquiry?_correlation]
    rw [expected]
    refine (books.asked_perm.append_right [inquiry]).trans ?_
    rw [List.append_assoc]
    refine List.Perm.append_left _ ?_
    exact List.perm_append_singleton inquiry _
  · intro settlement listed
    rcases books.justified settlement listed with failure | answer
    · exact Or.inl failure
    · obtain ⟨used, reply, has, issued, answered, equal⟩ := answer
      exact Or.inr ⟨used, reply, has, List.mem_append_left _ issued, answered, equal⟩
  · intro entry listed
    rcases List.mem_cons.1 listed with new | old
    · rw [new]
      exact List.mem_append_right _ (List.mem_singleton.2 rfl)
    · exact List.mem_append_left _ (books.issued_of_outstanding entry old)
  · intro settlement listed used has
    rw [List.map_append]
    exact List.mem_append_left _ (books.issued_of_settled settlement listed used has)
  · rw [List.map_cons, List.perm_middle.nodup_iff, List.nodup_cons]
    refine ⟨?_, books.tokens_nodup⟩
    intro listed
    rcases List.mem_append.1 listed with settled | outstanding
    · obtain ⟨settlement, member, has⟩ := List.mem_filterMap.1 settled
      exact fresh (books.issued_of_settled settlement member token has)
    · obtain ⟨entry, member, equal⟩ := List.mem_map.1 outstanding
      refine fresh (List.mem_map.2 ⟨_, books.issued_of_outstanding entry member, ?_⟩)
      exact equal

/-- A request whose channel is gone needs no result. -/
theorem discard (balanced : account.Balanced) {entry : RelayToken × Correlation}
    {rest : List (RelayToken × Correlation)} (first : account.outstanding = entry :: rest)
    (detached : entry.2.origin = none) :
    Balanced { account with outstanding := rest } := by
  obtain ⟨settlements, lost, books⟩ := balanced
  have expected : expected { account with outstanding := rest } = account.expected := by
    simp [Account.expected, first, Correlation.inquiry?, detached]
  refine ⟨settlements, lost, books.verdicts_eq, ?_, books.gone_of_lost, books.justified, ?_,
    books.issued_of_settled, ?_⟩
  · rw [expected]
    exact books.asked_perm
  · intro tested listed
    refine books.issued_of_outstanding tested ?_
    rw [first]
    exact List.mem_cons_of_mem entry listed
  · have tokens := books.tokens_nodup
    rw [first, List.map_cons, List.perm_middle.nodup_iff] at tokens
    exact (List.nodup_cons.1 tokens).2

/-- A result settles the request of its token. -/
theorem settle (balanced : account.Balanced) {token : RelayToken} {correlation : Correlation}
    {rest : List (RelayToken × Correlation)}
    (first : account.outstanding = (token, correlation) :: rest) {inquiry : Inquiry}
    (present : correlation.inquiry? = some inquiry) {result : RelayResult}
    (justified :
      Settlement.IsFailure ⟨inquiry, some token, result⟩ ∨
        Settlement.IsAnswer account.issued account.answers ⟨inquiry, some token, result⟩) :
    Balanced
      { account with
        verdicts :=
          account.verdicts ++ [⟨inquiry.origin, inquiry.source, inquiry.sink, result⟩]
        outstanding := rest } := by
  obtain ⟨settlements, lost, books⟩ := balanced
  let settlement : Settlement := ⟨inquiry, some token, result⟩
  have expected : account.expected = inquiry :: expected { account with outstanding := rest } := by
    simp [Account.expected, first, present]
  refine ⟨settlements ++ [settlement], lost, ?_, ?_, books.gone_of_lost, ?_, ?_, ?_, ?_⟩
  · simp only [books.verdicts_eq, List.map_append]
    rfl
  · have asked := books.asked_perm
    rw [expected] at asked
    refine asked.trans ?_
    rw [List.map_append, List.append_assoc]
    exact List.Perm.refl _
  · intro tested listed
    rcases List.mem_append.1 listed with earlier | last
    · exact books.justified tested earlier
    · rw [List.mem_singleton.1 last]
      exact justified
  · intro tested listed
    refine books.issued_of_outstanding tested ?_
    rw [first]
    exact List.mem_cons_of_mem _ listed
  · intro tested listed used has
    rcases List.mem_append.1 listed with earlier | last
    · exact books.issued_of_settled tested earlier used has
    · rw [List.mem_singleton.1 last] at has
      have same : token = used := Option.some.inj has
      rw [← same]
      have member : (token, correlation) ∈ account.outstanding := by
        rw [first]
        exact List.mem_cons_self
      exact List.mem_map_of_mem (books.issued_of_outstanding _ member)
  · have tokens := books.tokens_nodup
    rw [first, List.map_cons] at tokens
    simpa [settlement] using tokens

/-- The outstanding requests of a channel that is gone are lost. -/
theorem detach (balanced : account.Balanced) (session : SessionId) :
    Balanced
      { account with
        gone := account.gone ++ [session]
        outstanding :=
          account.outstanding.map fun entry => (entry.1, entry.2.detach session) } := by
  obtain ⟨settlements, lost, books⟩ := balanced
  let leaving := account.expected.filter fun inquiry => inquiry.origin = session
  let staying := account.expected.filter fun inquiry => !decide (inquiry.origin = session)
  have expected :
      (account.outstanding.map fun entry => (entry.1, entry.2.detach session)).filterMap
        (fun entry => entry.2.inquiry?) = staying := by
    simp only [staying, Account.expected, List.filterMap_map, List.filter_filterMap,
      Function.comp_def, Correlation.inquiry?_detach]
  refine ⟨settlements, lost ++ leaving, books.verdicts_eq, ?_, ?_, books.justified, ?_,
    books.issued_of_settled, ?_⟩
  · refine books.asked_perm.trans (List.Perm.append_left _ ?_)
    unfold Account.expected
    rw [expected]
    have split : account.expected.Perm (staying ++ leaving) :=
      (List.filter_append_perm _ account.expected).symm.trans List.perm_append_comm
    refine (split.append_right lost).trans ?_
    rw [List.append_assoc]
    exact List.Perm.append_left staying List.perm_append_comm
  · intro inquiry listed
    rcases List.mem_append.1 listed with before | now
    · exact List.mem_append_left _ (books.gone_of_lost inquiry before)
    · have origin := (List.mem_filter.1 now).2
      exact List.mem_append_right _ (List.mem_singleton.2 (of_decide_eq_true origin))
  · intro entry listed
    obtain ⟨old, member, equal⟩ := List.mem_map.1 listed
    have issued := books.issued_of_outstanding old member
    rw [← equal, Correlation.request_detach]
    exact issued
  · simpa [List.map_map, Function.comp_def] using books.tokens_nodup

end Balanced

end Account

end InputSharing
