import AndesTestClient.Runtime

namespace AndesTestClient

structure PubSubConfig where
  port : Int32 := 0
  hostname : Option String := none
  username : Option String := none
  password : Option String := none
  initialContextFactory : Option String := none
  connectionFactoryPrefix : Option String := none
  connectionFactoryName : Option String := none
  clientID : Option String := none
  virtualHostName : Option String := none
  messageCount : Int64 := 0
  parallelThreads : Int32 := 0
  queueName : Option String := none
  id : Option String := none
  isTransactional : Bool := false
  transactionBatchSize : Int32 := 0
  failoverParams : Option String := none
  delayBetweenMsgs : Int32 := 0
  messagesPerSecond : Int32 := 0
deriving DecidableEq, Repr

structure PublisherConfig extends PubSubConfig where
  publisherMaxThroughput : Int32 := 0
  messageContent : Option String := none
deriving DecidableEq, Repr

structure SubscriberConfig extends PubSubConfig where
  subscriptionID : Option String := none
  unsubscribeOnFinish : Bool := false
  enableClientAcknowledgment : Bool := false
  receiveWaitTimeMillis : Int64 := 0
deriving DecidableEq, Repr

structure TestConfiguration where
  port : Int32 := 0
  hostname : Option String := none
  username : Option String := none
  password : Option String := none
  initialContextFactory : Option String := none
  connectionFactoryPrefix : Option String := none
  connectionFactoryName : Option String := none
  clientID : Option String := none
  virtualHostName : Option String := none
  topicPublishers : List PublisherConfig := []
  queuePublishers : List PublisherConfig := []
  queueSubscribers : List SubscriberConfig := []
  topicSubscribers : List SubscriberConfig := []
  durableTopicSubscribers : List SubscriberConfig := []
deriving DecidableEq, Repr

namespace PubSubConfig

def new (uuid : String) : PubSubConfig := { id := some uuid }

def addGlobalConfigurationsIfAbsent (tc : TestConfiguration) (c : PubSubConfig) : PubSubConfig :=
  let c := if c.port = 0 then { c with port := tc.port } else c
  let c := if isBlank c.hostname then { c with hostname := tc.hostname } else c
  let c := if isBlank c.username then { c with username := tc.username } else c
  let c := if isBlank c.password then { c with password := tc.password } else c
  let c := if isBlank c.initialContextFactory then
    { c with initialContextFactory := tc.initialContextFactory } else c
  let c := if isBlank c.connectionFactoryPrefix then
    { c with connectionFactoryPrefix := tc.connectionFactoryPrefix } else c
  let c := if isBlank c.connectionFactoryName then
    { c with connectionFactoryName := tc.connectionFactoryName } else c
  let c := if isBlank c.clientID then { c with clientID := tc.clientID } else c
  if isBlank c.virtualHostName then { c with virtualHostName := tc.virtualHostName } else c

def getTCPConnectionURL (c : PubSubConfig) : String :=
  let builder := "amqp://" ++ concatenated c.username ++ ":" ++ concatenated c.password ++ "@" ++
    concatenated c.clientID ++ "/" ++ concatenated c.virtualHostName ++ "?"
  if isEmpty c.failoverParams then
    builder ++ "brokerlist='tcp://" ++ concatenated c.hostname ++ ":" ++ integerToString c.port ++ "'"
  else builder ++ concatenated c.failoverParams

def copyMembers (original copy : PubSubConfig) : PubSubConfig :=
  { copy with
    port := original.port
    hostname := original.hostname
    username := original.username
    password := original.password
    initialContextFactory := original.initialContextFactory
    connectionFactoryPrefix := original.connectionFactoryPrefix
    connectionFactoryName := original.connectionFactoryName
    clientID := original.clientID
    virtualHostName := original.virtualHostName
    messageCount := original.messageCount
    parallelThreads := original.parallelThreads
    queueName := original.queueName
    id := original.id
    isTransactional := original.isTransactional
    transactionBatchSize := original.transactionBatchSize
    failoverParams := original.failoverParams
    delayBetweenMsgs := original.delayBetweenMsgs
    messagesPerSecond := original.messagesPerSecond }

end PubSubConfig

namespace PublisherConfig

def new (uuid : String) : PublisherConfig := { PubSubConfig.new uuid with }

def copyMembers (original copy : PublisherConfig) : PublisherConfig :=
  { copy with
    publisherMaxThroughput := original.publisherMaxThroughput
    messageContent := original.messageContent
    toPubSubConfig := original.toPubSubConfig.copyMembers copy.toPubSubConfig }

def copy (uuid : String) (c : PublisherConfig) : PublisherConfig := c.copyMembers (new uuid)

def addGlobalConfigurationsIfAbsent (tc : TestConfiguration) (c : PublisherConfig) :
    PublisherConfig :=
  { c with toPubSubConfig := c.toPubSubConfig.addGlobalConfigurationsIfAbsent tc }

theorem addGlobalConfigurations_pubSub (tc : TestConfiguration) (c : PublisherConfig) :
    (c.addGlobalConfigurationsIfAbsent tc).toPubSubConfig =
      c.toPubSubConfig.addGlobalConfigurationsIfAbsent tc := by
  simp only [addGlobalConfigurationsIfAbsent]

/-- No member is left out: the fresh object becomes equal to the one it is copied from. -/
@[simp] theorem copy_eq (uuid : String) (c : PublisherConfig) : c.copy uuid = c := rfl

end PublisherConfig

namespace SubscriberConfig

def new (uuid : String) : SubscriberConfig := { PubSubConfig.new uuid with }

def copyMembers (original copy : SubscriberConfig) : SubscriberConfig :=
  { copy with
    subscriptionID := original.subscriptionID
    unsubscribeOnFinish := original.unsubscribeOnFinish
    enableClientAcknowledgment := original.enableClientAcknowledgment
    receiveWaitTimeMillis := original.receiveWaitTimeMillis
    toPubSubConfig := original.toPubSubConfig.copyMembers copy.toPubSubConfig }

def copy (uuid : String) (c : SubscriberConfig) : SubscriberConfig := c.copyMembers (new uuid)

def addGlobalConfigurationsIfAbsent (tc : TestConfiguration) (c : SubscriberConfig) :
    SubscriberConfig :=
  { c with toPubSubConfig := c.toPubSubConfig.addGlobalConfigurationsIfAbsent tc }

theorem addGlobalConfigurations_pubSub (tc : TestConfiguration) (c : SubscriberConfig) :
    (c.addGlobalConfigurationsIfAbsent tc).toPubSubConfig =
      c.toPubSubConfig.addGlobalConfigurationsIfAbsent tc := by
  simp only [addGlobalConfigurationsIfAbsent]

@[simp] theorem copy_eq (uuid : String) (c : SubscriberConfig) : c.copy uuid = c := rfl

end SubscriberConfig

end AndesTestClient
