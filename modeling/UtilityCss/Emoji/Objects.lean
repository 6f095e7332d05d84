/-!
# Animals, families and objects

Names of emoji from the second part of the pictograph block.
Every word is a name with the code points of its characters behind it.
-/

namespace UtilityCss.Emoji

def objects : String :=
  "
    rat/1F400 mouse2/1F401 ox/1F402 water_buffalo/1F403 cow2/1F404 tiger2/1F405 leopard/1F406
    rabbit2/1F407 cat2/1F408 dragon/1F409 crocodile/1F40A whale2/1F40B snail/1F40C snake/1F40D
    racehorse/1F40E ram/1F40F goat/1F410 ewe/1F411 sheep/1F411 monkey/1F412 rooster/1F413
    chicken/1F414 dog2/1F415 service_dog/1F415-200D-1F9BA pig2/1F416 boar/1F417 elephant/1F418
    octopus/1F419 shell/1F41A spiral_shell/1F41A bug/1F41B ant/1F41C bee/1F41D honeybee/1F41D
    beetle/1F41E lady_beetle/1F41E fish/1F41F tropical_fish/1F420 blowfish/1F421 turtle/1F422
    hatching_chick/1F423 baby_chick/1F424 front-facing_baby_chick/1F425 hatched_chick/1F425
    bird/1F426 penguin/1F427 koala/1F428 poodle/1F429 dromedary_camel/1F42A camel/1F42B
    two-hump_camel/1F42B dolphin/1F42C flipper/1F42C mouse/1F42D mouse_face/1F42D cow/1F42E
    cow_face/1F42E tiger/1F42F tiger_face/1F42F rabbit/1F430 rabbit_face/1F430 cat/1F431
    cat_face/1F431 dragon_face/1F432 spouting_whale/1F433 whale/1F433 horse/1F434 horse_face/1F434
    monkey_face/1F435 dog/1F436 dog_face/1F436 pig/1F437 pig_face/1F437 frog/1F438 frog_face/1F438
    hamster/1F439 hamster_face/1F439 wolf/1F43A wolf_face/1F43A bear/1F43B bear_face/1F43B
    panda_face/1F43C pig_nose/1F43D feet/1F43E paw_prints/1F43E chipmunk/1F43F eyes/1F440
    eye/1F441 eye_in_speech_bubble/1F441-FE0F-200D-1F5E8-FE0F lips/1F444 mouth/1F444 tongue/1F445
    point_up_2/1F446 point_down/1F447 point_left/1F448 point_right/1F449 facepunch/1F44A
    punch/1F44A wave/1F44B +1/1F44D thumbsup/1F44D -1/1F44E __1/1F44E thumbsdown/1F44E clap/1F44F
    crown/1F451 womans_hat/1F452 woman’s_hat/1F452 eyeglasses/1F453 glasses/1F453 necktie/1F454
    shirt/1F455 t-shirt/1F455 tshirt/1F455 jeans/1F456 dress/1F457 kimono/1F458 bikini/1F459
    womans_clothes/1F45A woman’s_clothes/1F45A purse/1F45B handbag/1F45C clutch_bag/1F45D
    pouch/1F45D mans_shoe/1F45E man’s_shoe/1F45E shoe/1F45E athletic_shoe/1F45F running_shoe/1F45F
    high-heeled_shoe/1F460 high_heel/1F460 sandal/1F461 woman’s_sandal/1F461 boot/1F462
    woman’s_boot/1F462 footprints/1F463 bust_in_silhouette/1F464 busts_in_silhouette/1F465
    couple_with_heart_man_man/1F468-200D-2764-FE0F-200D-1F468
    kiss_man_man/1F468-200D-2764-FE0F-200D-1F48B-200D-1F468 family_man_boy/1F468-200D-1F466
    family_man_boy_boy/1F468-200D-1F466-200D-1F466 family_man_girl/1F468-200D-1F467
    family_man_girl_boy/1F468-200D-1F467-200D-1F466
    family_man_girl_girl/1F468-200D-1F467-200D-1F467
    family_man_man_boy/1F468-200D-1F468-200D-1F466
    family_man_man_boy_boy/1F468-200D-1F468-200D-1F466-200D-1F466
    family_man_man_girl/1F468-200D-1F468-200D-1F467
    family_man_man_girl_boy/1F468-200D-1F468-200D-1F467-200D-1F466
    family_man_man_girl_girl/1F468-200D-1F468-200D-1F467-200D-1F467
    family_man_woman_boy/1F468-200D-1F469-200D-1F466
    family_man_woman_boy_boy/1F468-200D-1F469-200D-1F466-200D-1F466
    family_man_woman_girl/1F468-200D-1F469-200D-1F467
    family_man_woman_girl_boy/1F468-200D-1F469-200D-1F467-200D-1F466
    family_man_woman_girl_girl/1F468-200D-1F469-200D-1F467-200D-1F467
    man_with_probing_cane/1F468-200D-1F9AF red-haired_man/1F468-200D-1F9B0
    curly-haired_man/1F468-200D-1F9B1 bald_man/1F468-200D-1F9B2 white-haired_man/1F468-200D-1F9B3
    man_in_motorized_wheelchair/1F468-200D-1F9BC man_in_manual_wheelchair/1F468-200D-1F9BD
    couple_with_heart_woman_man/1F469-200D-2764-FE0F-200D-1F468
    couple_with_heart_woman_woman/1F469-200D-2764-FE0F-200D-1F469
    kiss_woman_man/1F469-200D-2764-FE0F-200D-1F48B-200D-1F468
    kiss_woman_woman/1F469-200D-2764-FE0F-200D-1F48B-200D-1F469 family_woman_boy/1F469-200D-1F466
    family_woman_boy_boy/1F469-200D-1F466-200D-1F466 family_woman_girl/1F469-200D-1F467
    family_woman_girl_boy/1F469-200D-1F467-200D-1F466
    family_woman_girl_girl/1F469-200D-1F467-200D-1F467
    family_woman_woman_boy/1F469-200D-1F469-200D-1F466
    family_woman_woman_boy_boy/1F469-200D-1F469-200D-1F466-200D-1F466
    family_woman_woman_girl/1F469-200D-1F469-200D-1F467
    family_woman_woman_girl_boy/1F469-200D-1F469-200D-1F467-200D-1F466
    family_woman_woman_girl_girl/1F469-200D-1F469-200D-1F467-200D-1F467
    woman_with_probing_cane/1F469-200D-1F9AF red-haired_woman/1F469-200D-1F9B0
    curly-haired_woman/1F469-200D-1F9B1 bald_woman/1F469-200D-1F9B2
    white-haired_woman/1F469-200D-1F9B3 woman_in_motorized_wheelchair/1F469-200D-1F9BC
    woman_in_manual_wheelchair/1F469-200D-1F9BD family/1F46A couple/1F46B
    man_and_woman_holding_hands/1F46B two_men_holding_hands/1F46C two_women_holding_hands/1F46D
    cop/1F46E dancers/1F46F people_with_bunny_ears/1F46F
    women_with_bunny_ears/1F46F-200D-2640-FE0F men_with_bunny_ears/1F46F-200D-2642-FE0F
    person_with_blond_hair/1F471 man_with_gua_pi_mao/1F472 man_with_turban/1F473 older_man/1F474
    older_woman/1F475 japanese_ogre/1F479 ogre/1F479 goblin/1F47A japanese_goblin/1F47A
    ghost/1F47B angel/1F47C alien/1F47D alien_monster/1F47E space_invader/1F47E
    angry_face_with_horns/1F47F imp/1F47F skull/1F480 information_desk_person/1F481
    guardsman/1F482 dancer/1F483 lipstick/1F484 nail_care/1F485 massage/1F486 haircut/1F487
    barber/1F488 barber_pole/1F488 syringe/1F489 pill/1F48A kiss/1F48B kiss_mark/1F48B
    love_letter/1F48C ring/1F48D gem/1F48E gem_stone/1F48E couplekiss/1F48F bouquet/1F490
    couple_with_heart/1F491 wedding/1F492 beating_heart/1F493 heartbeat/1F493 broken_heart/1F494
    two_hearts/1F495 sparkling_heart/1F496 growing_heart/1F497 heartpulse/1F497 cupid/1F498
    heart_with_arrow/1F498 blue_heart/1F499 green_heart/1F49A yellow_heart/1F49B
    purple_heart/1F49C gift_heart/1F49D heart_with_ribbon/1F49D revolving_hearts/1F49E
    heart_decoration/1F49F diamond_shape_with_a_dot_inside/1F4A0 diamond_with_a_dot/1F4A0
    bulb/1F4A1 light_bulb/1F4A1 anger/1F4A2 anger_symbol/1F4A2 bomb/1F4A3 zzz/1F4A4 boom/1F4A5
    collision/1F4A5 sweat_droplets/1F4A6 sweat_drops/1F4A6 droplet/1F4A7 dash/1F4A8
    dashing_away/1F4A8 hankey/1F4A9 pile_of_poo/1F4A9 poop/1F4A9 shit/1F4A9 muscle/1F4AA
    dizzy/1F4AB speech_balloon/1F4AC thought_balloon/1F4AD white_flower/1F4AE 100/1F4AF
    hundred_points/1F4AF money_bag/1F4B0 moneybag/1F4B0 currency_exchange/1F4B1
    heavy_dollar_sign/1F4B2 credit_card/1F4B3 yen/1F4B4 yen_banknote/1F4B4 dollar/1F4B5
    dollar_banknote/1F4B5 euro/1F4B6 euro_banknote/1F4B6 pound/1F4B7 pound_banknote/1F4B7
    money_with_wings/1F4B8 chart/1F4B9 chart_increasing_with_yen/1F4B9 seat/1F4BA computer/1F4BB
    laptop_computer/1F4BB briefcase/1F4BC computer_disk/1F4BD minidisc/1F4BD floppy_disk/1F4BE
    cd/1F4BF optical_disk/1F4BF dvd/1F4C0 file_folder/1F4C1 open_file_folder/1F4C2
    page_with_curl/1F4C3 page_facing_up/1F4C4 date/1F4C5 calendar/1F4C6 tear-off_calendar/1F4C6
    card_index/1F4C7 chart_increasing/1F4C8 chart_with_upwards_trend/1F4C8 chart_decreasing/1F4C9
    chart_with_downwards_trend/1F4C9 bar_chart/1F4CA clipboard/1F4CB pushpin/1F4CC
    round_pushpin/1F4CD paperclip/1F4CE straight_ruler/1F4CF triangular_ruler/1F4D0
    bookmark_tabs/1F4D1 ledger/1F4D2 notebook/1F4D3 notebook_with_decorative_cover/1F4D4
    closed_book/1F4D5 book/1F4D6 open_book/1F4D6 green_book/1F4D7 blue_book/1F4D8
    orange_book/1F4D9 books/1F4DA name_badge/1F4DB scroll/1F4DC memo/1F4DD pencil/1F4DD
    telephone_receiver/1F4DE pager/1F4DF fax/1F4E0 fax_machine/1F4E0 satellite/1F4E1
    satellite_antenna/1F4E1 loudspeaker/1F4E2 mega/1F4E3 megaphone/1F4E3 outbox_tray/1F4E4
    inbox_tray/1F4E5 package/1F4E6 e-mail/1F4E7 e__mail/1F4E7 incoming_envelope/1F4E8
    envelope_with_arrow/1F4E9 closed_mailbox_with_lowered_flag/1F4EA mailbox_closed/1F4EA
    closed_mailbox_with_raised_flag/1F4EB mailbox/1F4EB mailbox_with_mail/1F4EC
    open_mailbox_with_raised_flag/1F4EC mailbox_with_no_mail/1F4ED
    open_mailbox_with_lowered_flag/1F4ED postbox/1F4EE postal_horn/1F4EF newspaper/1F4F0
    iphone/1F4F1 mobile_phone/1F4F1 calling/1F4F2 mobile_phone_with_arrow/1F4F2
    vibration_mode/1F4F3 mobile_phone_off/1F4F4 no_mobile_phones/1F4F5 antenna_bars/1F4F6
    signal_strength/1F4F6 camera/1F4F7 camera_with_flash/1F4F8 video_camera/1F4F9 television/1F4FA
    tv/1F4FA radio/1F4FB vhs/1F4FC videocassette/1F4FC film_projector/1F4FD prayer_beads/1F4FF
    shuffle_tracks_button/1F500 twisted_rightwards_arrows/1F500 repeat/1F501 repeat_button/1F501
    repeat_one/1F502 repeat_single_button/1F502 arrows_clockwise/1F503
    clockwise_vertical_arrows/1F503 arrows_counterclockwise/1F504
    counterclockwise_arrows_button/1F504 dim_button/1F505 low_brightness/1F505 bright_button/1F506
    high_brightness/1F506 mute/1F507 muted_speaker/1F507 speaker/1F508 speaker_low_volume/1F508
    sound/1F509 speaker_medium_volume/1F509 loud_sound/1F50A speaker_high_volume/1F50A
    battery/1F50B electric_plug/1F50C mag/1F50D magnifying_glass_tilted_left/1F50D mag_right/1F50E
    magnifying_glass_tilted_right/1F50E lock_with_ink_pen/1F50F locked_with_pen/1F50F
    closed_lock_with_key/1F510 locked_with_key/1F510 key/1F511 lock/1F512 locked/1F512
    unlock/1F513 unlocked/1F513 bell/1F514 bell_with_slash/1F515 no_bell/1F515 bookmark/1F516
    link/1F517 radio_button/1F518 back/1F519 back_arrow/1F519 end/1F51A end_arrow/1F51A on/1F51B
    on!_arrow/1F51B soon/1F51C soon_arrow/1F51C top/1F51D top_arrow/1F51D
    no_one_under_eighteen/1F51E underage/1F51E keycap_10/1F51F ten/1F51F capital_abcd/1F520
    input_latin_uppercase/1F520 abcd/1F521 input_latin_lowercase/1F521 1234/1F522
    input_numbers/1F522 input_symbols/1F523 symbols/1F523 abc/1F524 input_latin_letters/1F524
    fire/1F525 flashlight/1F526 wrench/1F527 hammer/1F528 nut_and_bolt/1F529 hocho/1F52A
    kitchen_knife/1F52A knife/1F52A gun/1F52B pistol/1F52B microscope/1F52C telescope/1F52D
    crystal_ball/1F52E dotted_six-pointed_star/1F52F six_pointed_star/1F52F beginner/1F530
    japanese_symbol_for_beginner/1F530 trident/1F531 trident_emblem/1F531
    black_square_button/1F532 white_square_button/1F533 red_circle/1F534 blue_circle/1F535
    large_blue_circle/1F535 large_orange_diamond/1F536 large_blue_diamond/1F537
    small_orange_diamond/1F538 small_blue_diamond/1F539 red_triangle_pointed_up/1F53A
    small_red_triangle/1F53A red_triangle_pointed_down/1F53B small_red_triangle_down/1F53B
    arrow_up_small/1F53C upwards_button/1F53C arrow_down_small/1F53D downwards_button/1F53D
    om/1F549 om_symbol/1F549 dove/1F54A dove_of_peace/1F54A kaaba/1F54B mosque/1F54C
    synagogue/1F54D menorah/1F54E menorah_with_nine_branches/1F54E clock1/1F550 one_o’clock/1F550
    clock2/1F551 two_o’clock/1F551 clock3/1F552 three_o’clock/1F552 clock4/1F553
    four_o’clock/1F553 clock5/1F554 five_o’clock/1F554 clock6/1F555 six_o’clock/1F555 clock7/1F556
    seven_o’clock/1F556 clock8/1F557 eight_o’clock/1F557 clock9/1F558 nine_o’clock/1F558
    clock10/1F559 ten_o’clock/1F559 clock11/1F55A eleven_o’clock/1F55A clock12/1F55B
    twelve_o’clock/1F55B clock130/1F55C one-thirty/1F55C clock230/1F55D two-thirty/1F55D
    clock330/1F55E three-thirty/1F55E clock430/1F55F four-thirty/1F55F clock530/1F560
    five-thirty/1F560 clock630/1F561 six-thirty/1F561 clock730/1F562 seven-thirty/1F562
    clock830/1F563 eight-thirty/1F563 clock930/1F564 nine-thirty/1F564 clock1030/1F565
    ten-thirty/1F565 clock1130/1F566 eleven-thirty/1F566 clock1230/1F567 twelve-thirty/1F567
    candle/1F56F mantelpiece_clock/1F570 hole/1F573 man_in_business_suit_levitating/1F574
    sleuth_or_spy/1F575 dark_sunglasses/1F576 spider/1F577 spider_web/1F578 joystick/1F579
    linked_paperclips/1F587 lower_left_ballpoint_pen/1F58A pen/1F58A fountain_pen/1F58B
    lower_left_fountain_pen/1F58B lower_left_paintbrush/1F58C paintbrush/1F58C crayon/1F58D
    lower_left_crayon/1F58D raised_hand_with_fingers_splayed/1F590
    reversed_hand_with_middle_finger_extended/1F595
    raised_hand_with_part_between_middle_and_ring_fingers/1F596 black_heart/1F5A4
    desktop_computer/1F5A5 printer/1F5A8 computer_mouse/1F5B1 three_button_mouse/1F5B1
    trackball/1F5B2 frame_with_picture/1F5BC framed_picture/1F5BC card_index_dividers/1F5C2
    card_file_box/1F5C3 file_cabinet/1F5C4 wastebasket/1F5D1 spiral_note_pad/1F5D2
    spiral_notepad/1F5D2 spiral_calendar/1F5D3 spiral_calendar_pad/1F5D3 clamp/1F5DC
    compression/1F5DC old_key/1F5DD rolled-up_newspaper/1F5DE rolled__up_newspaper/1F5DE
    dagger/1F5E1 dagger_knife/1F5E1 speaking_head/1F5E3 speaking_head_in_silhouette/1F5E3
    left_speech_bubble/1F5E8 right_anger_bubble/1F5EF ballot_box_with_ballot/1F5F3 world_map/1F5FA
    mount_fuji/1F5FB tokyo_tower/1F5FC statue_of_liberty/1F5FD japan/1F5FE map_of_japan/1F5FE
    moai/1F5FF moyai/1F5FF
  "

end UtilityCss.Emoji
