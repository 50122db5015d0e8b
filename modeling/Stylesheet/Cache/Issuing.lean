import Stylesheet.Cache.Session

/-!
# Issuing identifiers

A request that is not answered from a store is issued an identifier and compiled for it. The text then goes to the sink at once or into the queue, as the insertion mode says. A number is used up by every attempt, also by one that compiles to nothing.
-/

namespace Stylesheet

namespace Session

variable {σ : Type}

inductive Delivery
  | materialized
  | queued
  | failed
  /-- The request compiled to nothing. -/
  | rejected
deriving DecidableEq

def Delivery.succeeded (delivery : Delivery) : Bool :=
  delivery = .materialized || delivery = .queued

structure Issued where
  identifier : Identifier
  text : Text
  delivery : Delivery

/-- What there is to tell about the choice of an identifier. -/
def identifierNotices (config : Config) (request : Request) (seed : Seed) : List Notice :=
  (Identifier.unusableName? request.options?).toList.map .unusableName
    ++ (Identifier.unusableProduct? config request.options? seed).toList.map .unusableProduct

def compilationNotice (config : Config) (seed : Seed) (identifier : Identifier) (text : Text) :
    Notice :=
  if config.debug then .compiled identifier text else .missed seed.fingerprint identifier

/-- Delivers the text of a request at once. -/
def sendNow (host : Host σ) (request : Request) (text : Text) (session : Session σ) :
    Delivery × Session σ :=
  let outcome := session.deliver host text (request.isRepeatable session.cache.config)
  (if outcome.1 then .materialized else .failed, outcome.2)

/-- Delivers the text of a request at once or queues it, as the insertion mode says; empty text needs no delivery. -/
def send (host : Host σ) (request : Request) (identifier : Identifier) (text : Text)
    (session : Session σ) : Delivery × Session σ :=
  if session.cache.config.insertion = .sync then session.sendNow host request text
  else if text.isEmpty then (.materialized, session)
  else (.queued, session.modify (Cache.enqueue request identifier text))

/-- The text of a request as it goes to the sink. -/
def finishedText (config : Config) (request : Request) (identifier : Identifier) : Text :=
  config.finish (request.compile config.renderMode identifier).text

/-- Takes the next identifier and tells what there is to tell about it and about the compilation. -/
def beginIssue (request : Request) (session : Session σ) : Session σ :=
  let identifier := session.cache.nextIdentifier request
  (session.modify Cache.advance).tellAll <|
    identifierNotices session.cache.config request (session.cache.nextSeed request)
      ++ (request.notices identifier).map .compiler

/-- Issues an identifier for a request, compiles the request for it and sends the text. -/
def issue (host : Host σ) (request : Request) (session : Session σ) : Issued × Session σ :=
  let config := session.cache.config
  let seed := session.cache.nextSeed request
  let identifier := session.cache.nextIdentifier request
  let begun := session.beginIssue request
  if request.isHollow config.renderMode identifier then
    (⟨Identifier.invalid, [], .rejected⟩, begun.reject (.noRules seed.fingerprint))
  else
    let text := finishedText config request identifier
    let sent := (begun.tell (compilationNotice config seed identifier text)).send host request
      identifier text
    (⟨identifier, text, sent.1⟩, sent.2)

end Session

end Stylesheet
