import Flowline.Builtin.Branching
import Flowline.Builtin.Calculator
import Flowline.Builtin.ChatModel
import Flowline.Builtin.Exchange
import Flowline.Builtin.Gateway
import Flowline.Builtin.ManualTrigger
import Flowline.Builtin.RegexExtractor
import Flowline.Builtin.Texts
import Flowline.Registry

/-!
The registry of the built-in nodes.
-/

namespace Flowline

def builtins {σ : Type} (settings : NodeSettings) (client : Http.Client σ) (stamps : Stamps) :
    List (Processor σ) :=
  [textInput, manualTrigger stamps, textOutput, textTransform, concatTexts, regexExtractor,
    calculator, booleanGateway, gateway, ifElse, conditional, httpRequest client settings.http,
    webhook client settings.http stamps, urlFetch client settings.http,
    chatModel settings.chat stamps]

def builtinRegistry {σ : Type} (settings : NodeSettings) (client : Http.Client σ)
    (stamps : Stamps) : Registry σ :=
  Registry.registerAll .empty (builtins settings client stamps)

end Flowline
