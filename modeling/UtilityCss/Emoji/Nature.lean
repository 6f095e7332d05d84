/-!
# Weather, plants, food and festivities

Names of emoji from the first part of the pictograph block.
Every word is a name with the code points of its characters behind it.
-/

namespace UtilityCss.Emoji

def nature : String :=
  "
    cyclone/1F300 foggy/1F301 closed_umbrella/1F302 night_with_stars/1F303
    sunrise_over_mountains/1F304 sunrise/1F305 city_sunset/1F306 cityscape_at_dusk/1F306
    city_sunrise/1F307 sunset/1F307 rainbow/1F308 bridge_at_night/1F309 ocean/1F30A
    water_wave/1F30A volcano/1F30B milky_way/1F30C earth_africa/1F30D
    globe_showing_europe-africa/1F30D earth_americas/1F30E globe_showing_americas/1F30E
    earth_asia/1F30F globe_showing_asia-australia/1F30F globe_with_meridians/1F310 new_moon/1F311
    waxing_crescent_moon/1F312 first_quarter_moon/1F313 moon/1F314 waxing_gibbous_moon/1F314
    full_moon/1F315 waning_gibbous_moon/1F316 last_quarter_moon/1F317 waning_crescent_moon/1F318
    crescent_moon/1F319 new_moon_face/1F31A new_moon_with_face/1F31A first_quarter_moon_face/1F31B
    first_quarter_moon_with_face/1F31B last_quarter_moon_face/1F31C
    last_quarter_moon_with_face/1F31C full_moon_face/1F31D full_moon_with_face/1F31D
    sun_with_face/1F31E glowing_star/1F31F star2/1F31F shooting_star/1F320 stars/1F320
    thermometer/1F321 sun_behind_small_cloud/1F324 white_sun_with_small_cloud/1F324
    sun_behind_large_cloud/1F325 white_sun_behind_cloud/1F325 sun_behind_rain_cloud/1F326
    white_sun_behind_cloud_with_rain/1F326 cloud_with_rain/1F327 cloud_with_snow/1F328
    cloud_with_lightning/1F329 cloud_with_tornado/1F32A tornado/1F32A fog/1F32B
    wind_blowing_face/1F32C wind_face/1F32C hot_dog/1F32D taco/1F32E burrito/1F32F chestnut/1F330
    seedling/1F331 evergreen_tree/1F332 deciduous_tree/1F333 palm_tree/1F334 cactus/1F335
    hot_pepper/1F336 tulip/1F337 cherry_blossom/1F338 rose/1F339 hibiscus/1F33A sunflower/1F33B
    blossom/1F33C corn/1F33D ear_of_corn/1F33D ear_of_rice/1F33E sheaf_of_rice/1F33E herb/1F33F
    four_leaf_clover/1F340 maple_leaf/1F341 fallen_leaf/1F342 leaf_fluttering_in_wind/1F343
    leaves/1F343 mushroom/1F344 tomato/1F345 eggplant/1F346 grapes/1F347 melon/1F348
    watermelon/1F349 tangerine/1F34A lemon/1F34B banana/1F34C pineapple/1F34D apple/1F34E
    red_apple/1F34E green_apple/1F34F pear/1F350 peach/1F351 cherries/1F352 strawberry/1F353
    hamburger/1F354 pizza/1F355 meat_on_bone/1F356 poultry_leg/1F357 rice_cracker/1F358
    rice_ball/1F359 cooked_rice/1F35A rice/1F35A curry/1F35B curry_rice/1F35B ramen/1F35C
    steaming_bowl/1F35C spaghetti/1F35D bread/1F35E french_fries/1F35F fries/1F35F
    roasted_sweet_potato/1F360 sweet_potato/1F360 dango/1F361 oden/1F362 sushi/1F363
    fried_shrimp/1F364 fish_cake/1F365 fish_cake_with_swirl/1F365 icecream/1F366
    soft_ice_cream/1F366 shaved_ice/1F367 ice_cream/1F368 doughnut/1F369 cookie/1F36A
    chocolate_bar/1F36B candy/1F36C lollipop/1F36D custard/1F36E honey_pot/1F36F cake/1F370
    shortcake/1F370 bento/1F371 bento_box/1F371 pot_of_food/1F372 stew/1F372 cooking/1F373
    egg/1F373 fork_and_knife/1F374 tea/1F375 teacup_without_handle/1F375 sake/1F376
    wine_glass/1F377 cocktail/1F378 cocktail_glass/1F378 tropical_drink/1F379 beer/1F37A
    beer_mug/1F37A beers/1F37B clinking_beer_mugs/1F37B baby_bottle/1F37C
    fork_and_knife_with_plate/1F37D bottle_with_popping_cork/1F37E popcorn/1F37F ribbon/1F380
    gift/1F381 wrapped_gift/1F381 birthday/1F382 birthday_cake/1F382 jack-o-lantern/1F383
    jack_o_lantern/1F383 christmas_tree/1F384 santa/1F385 fireworks/1F386 sparkler/1F387
    balloon/1F388 party_popper/1F389 tada/1F389 confetti_ball/1F38A tanabata_tree/1F38B
    crossed_flags/1F38C bamboo/1F38D pine_decoration/1F38D dolls/1F38E japanese_dolls/1F38E
    carp_streamer/1F38F flags/1F38F wind_chime/1F390 moon_viewing_ceremony/1F391 rice_scene/1F391
    school_backpack/1F392 school_satchel/1F392 graduation_cap/1F393 mortar_board/1F393
    military_medal/1F396 reminder_ribbon/1F397 studio_microphone/1F399 level_slider/1F39A
    control_knobs/1F39B film_frames/1F39E admission_tickets/1F39F carousel_horse/1F3A0
    ferris_wheel/1F3A1 roller_coaster/1F3A2 fishing_pole/1F3A3 fishing_pole_and_fish/1F3A3
    microphone/1F3A4 movie_camera/1F3A5 cinema/1F3A6 headphone/1F3A7 headphones/1F3A7 art/1F3A8
    artist_palette/1F3A8 top_hat/1F3A9 tophat/1F3A9 circus_tent/1F3AA ticket/1F3AB clapper/1F3AC
    clapper_board/1F3AC performing_arts/1F3AD video_game/1F3AE dart/1F3AF direct_hit/1F3AF
    slot_machine/1F3B0 8ball/1F3B1 pool_8_ball/1F3B1 game_die/1F3B2 bowling/1F3B3
    flower_playing_cards/1F3B4 musical_note/1F3B5 musical_notes/1F3B6 notes/1F3B6 saxophone/1F3B7
    guitar/1F3B8 musical_keyboard/1F3B9 trumpet/1F3BA violin/1F3BB musical_score/1F3BC
    running_shirt/1F3BD running_shirt_with_sash/1F3BD tennis/1F3BE ski/1F3BF skis/1F3BF
    basketball/1F3C0 checkered_flag/1F3C1 chequered_flag/1F3C1 runner/1F3C3 running/1F3C3
    surfer/1F3C4 sports_medal/1F3C5 trophy/1F3C6 american_football/1F3C8 football/1F3C8
    rugby_football/1F3C9 swimmer/1F3CA weight_lifter/1F3CB golfer/1F3CC motorcycle/1F3CD
    racing_motorcycle/1F3CD racing_car/1F3CE cricket_bat_and_ball/1F3CF cricket_game/1F3CF
    volleyball/1F3D0 field_hockey/1F3D1 field_hockey_stick_and_ball/1F3D1 ice_hockey/1F3D2
    ice_hockey_stick_and_puck/1F3D2 ping_pong/1F3D3 table_tennis_paddle_and_ball/1F3D3
    snow-capped_mountain/1F3D4 snow_capped_mountain/1F3D4 camping/1F3D5 beach_with_umbrella/1F3D6
    building_construction/1F3D7 house_buildings/1F3D8 houses/1F3D8 cityscape/1F3D9
    derelict_house/1F3DA derelict_house_building/1F3DA classical_building/1F3DB desert/1F3DC
    desert_island/1F3DD national_park/1F3DE stadium/1F3DF house/1F3E0 house_with_garden/1F3E1
    office/1F3E2 office_building/1F3E2 japanese_post_office/1F3E3 post_office/1F3E3
    european_post_office/1F3E4 hospital/1F3E5 bank/1F3E6 atm/1F3E7 atm_sign/1F3E7 hotel/1F3E8
    love_hotel/1F3E9 convenience_store/1F3EA school/1F3EB department_store/1F3EC factory/1F3ED
    izakaya_lantern/1F3EE lantern/1F3EE red_paper_lantern/1F3EE japanese_castle/1F3EF castle/1F3F0
    european_castle/1F3F0 rosette/1F3F5 label/1F3F7 badminton/1F3F8
    badminton_racquet_and_shuttlecock/1F3F8 bow_and_arrow/1F3F9 amphora/1F3FA
    emoji_modifier_fitzpatrick_type__1__2/1F3FB light_skin_tone/1F3FB
    emoji_modifier_fitzpatrick_type__3/1F3FC medium_light_skin_tone/1F3FC
    emoji_modifier_fitzpatrick_type__4/1F3FD medium_skin_tone/1F3FD
    emoji_modifier_fitzpatrick_type__5/1F3FE medium_dark_skin_tone/1F3FE dark_skin_tone/1F3FF
    emoji_modifier_fitzpatrick_type__6/1F3FF
  "

end UtilityCss.Emoji
