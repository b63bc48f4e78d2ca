-- Replies to free texts: a template by what the text is about, filled in with
-- the sender, a thought, and the beginning of the text.
import ChatBot.Draws
import ChatBot.Text.Replace
import ChatBot.Chat.Identity
import ChatBot.Reply.Category

namespace ChatBot.Reply

/-- The templates to choose from. -/
def templates : Category → List String
  | .greeting => [
    "Hello {sender}! 👋 How can I assist you today?",
    "Hi there {sender}! I'm your AI assistant. What can I help you with?",
    "Greetings {sender}! Ready to chat and help with your questions!"]
  | .wellBeing => [
    "I'm doing great! My database is running smoothly and I'm ready to help! 🤖",
    "Excellent! All systems are green and I'm processing messages efficiently! ⚡",
    "I'm fantastic! Thanks for asking. How are you doing today?"]
  | .gratitude => [
    "You're very welcome! Happy to help! 😊",
    "No problem at all! That's what I'm here for! 🤖",
    "Glad I could assist! Feel free to ask anything else!"]
  | .fallback => [
    "That's interesting, {sender}! {thought}",
    "I understand your message about '{preview}...' Let me process that...",
    "Thanks for sharing that with me, {sender}! Here's my thought on it..."]

def thoughts : List String := [
  "That's an interesting question! Let me think about that...",
  "I understand what you're asking. Here's my perspective:",
  "Based on my knowledge, I would say:",
  "That's a great point! My response would be:",
  "I'm processing that information. Here's what I think:"]

theorem templates_ne_nil (c : Category) : templates c ≠ [] := by
  cases c <;> simp [templates]

theorem thoughts_ne_nil : thoughts ≠ [] := by simp [thoughts]

/-- How many characters of a text a reply repeats. -/
def previewLength : Nat := 30

/-- The beginning of a text. -/
def preview (text : String) : String := String.ofList (text.toList.take previewLength)

/-- Puts the three values in their places, one after the other: a value that holds the
placeholder of a later one has it filled in, too. -/
def fill (template sender thought preview : String) : String :=
  let withSender := Text.replaced template "{sender}" sender
  let withThought := Text.replaced withSender "{thought}" thought
  Text.replaced withThought "{preview}" preview

/-- The reply to a text. A thought is picked even if the template has no place for it. -/
def toText (text : String) (sender : Chat.UserId) (draws : Draws) : String × Draws :=
  let category := categorize text
  let (template, draws) := draws.pick (templates category) (templates_ne_nil category)
  let (thought, draws) := draws.pick thoughts thoughts_ne_nil
  (fill template sender.text thought (preview text), draws)

end ChatBot.Reply
